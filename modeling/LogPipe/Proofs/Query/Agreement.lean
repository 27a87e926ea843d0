import LogPipe.Proofs.Except
import LogPipe.Proofs.Query.Pieces
import LogPipe.Proofs.Query.Tiling

/-!
# The splitter and the lexer agree

The splitter follows quotes and brackets by a scan over the whole text, the lexer by
reading tokens.  Both accept exactly the closed texts, so what the splitter cuts out can
always be read, and a query fails after it has been split only over a blank segment.
-/

namespace LogPipe.Query

open LogPipe.Text String

namespace Scan

/-- Whether the rest of a text closes what a scan has left open.  A character after a
backslash is passed over. -/
def Ends (scan : Scan) (text : List Char) : Prop :=
  match scan.quote with
  | none => ClosedFrom (scan.brackets.map Prod.fst) text
  | some (quote, _) =>
      ∃ passed inside after, text = passed ++ (inside ++ quote :: after) ∧
        passed.length = scan.escaped.toNat ∧ Quotable quote inside ∧
        ClosedFrom (scan.brackets.map Prod.fst) after

/-- What every scan keeps: it is inside of nothing but quotes, and a backslash waits only
inside them. -/
structure Regular (scan : Scan) : Prop where
  settled : scan.Settled
  quotes : ∀ opened, scan.quote = some opened → isQuote opened.1 = true

theorem regular_start : Regular {} :=
  ⟨settled_start, by rintro _ ⟨⟩⟩

theorem Regular.step {scan next : Scan} {offset : Nat} {c : Char} (regular : scan.Regular)
    (stepped : scan.step? offset c = some next) : next.Regular := by
  refine ⟨regular.settled.step stepped, ?_⟩
  obtain ⟨quote, escaped, brackets⟩ := scan
  cases quote with
  | some opened =>
      have isOpening := regular.quotes opened rfl
      simp only [step?] at stepped
      split at stepped
      · cases stepped
        rintro _ ⟨⟩
        exact isOpening
      · split at stepped
        · cases stepped
          rintro _ ⟨⟩
          exact isOpening
        · split at stepped
          · cases stepped
            rintro _ ⟨⟩
          · cases stepped
            rintro _ ⟨⟩
            exact isOpening
  | none =>
      simp only [step?] at stepped
      split at stepped
      · next quotes =>
          cases stepped
          rintro _ ⟨⟩
          exact quotes
      · split at stepped
        · cases stepped
          rintro _ ⟨⟩
        · split at stepped
          · split at stepped
            · split at stepped
              · cases stepped
                rintro _ ⟨⟩
              · cases stepped
            · cases stepped
          · cases stepped
            rintro _ ⟨⟩

theorem ends_nil_iff {scan : Scan} : scan.Ends [] ↔ scan.isTopLevel = true := by
  obtain ⟨quote, escaped, brackets⟩ := scan
  cases quote with
  | none => simp [Ends, isTopLevel, closedFrom_nothing_iff]
  | some opened => simp [Ends, isTopLevel]

section Step

variable {quote : Char} {start offset : Nat} {brackets : List (Char × Nat)} {c : Char}
  {rest : List Char}

/-- After a backslash any character is passed over. -/
theorem ends_escaped_iff :
    Ends ⟨some (quote, start), true, brackets⟩ (c :: rest) ↔
      Ends ⟨some (quote, start), false, brackets⟩ rest := by
  constructor
  · rintro ⟨passed, inside, after, split, one, quotable, closed⟩
    obtain ⟨d, rfl⟩ := List.length_eq_one_iff.mp one
    obtain ⟨rfl, rfl⟩ := List.cons_eq_cons.mp split
    exact ⟨[], inside, after, rfl, rfl, quotable, closed⟩
  · rintro ⟨passed, inside, after, rfl, none, quotable, closed⟩
    obtain rfl := List.length_eq_zero_iff.mp none
    exact ⟨[c], inside, after, rfl, rfl, quotable, closed⟩

theorem ends_quoted_iff :
    Ends ⟨some (quote, start), false, brackets⟩ rest ↔
      ∃ inside after, rest = inside ++ quote :: after ∧ Quotable quote inside ∧
        ClosedFrom (brackets.map Prod.fst) after := by
  constructor
  · rintro ⟨passed, inside, after, rfl, none, quotable, closed⟩
    obtain rfl := List.length_eq_zero_iff.mp none
    exact ⟨inside, after, rfl, quotable, closed⟩
  · rintro ⟨inside, after, rfl, quotable, closed⟩
    exact ⟨[], inside, after, rfl, rfl, quotable, closed⟩

theorem ends_slash_iff (notSlash : quote ≠ '\\') :
    Ends ⟨some (quote, start), false, brackets⟩ ('\\' :: rest) ↔
      Ends ⟨some (quote, start), true, brackets⟩ rest := by
  rw [ends_quoted_iff]
  constructor
  · rintro ⟨inside, after, split, quotable, closed⟩
    cases quotable with
    | nil => exact absurd (List.cons_eq_cons.mp split).1.symm notSlash
    | plain _ plain _ => exact absurd (List.cons_eq_cons.mp split).1.symm plain
    | @escaped d inside quotable =>
        obtain ⟨-, rfl⟩ := List.cons_eq_cons.mp split
        exact ⟨[d], inside, after, rfl, rfl, quotable, closed⟩
  · rintro ⟨passed, inside, after, rfl, one, quotable, closed⟩
    obtain ⟨d, rfl⟩ := List.length_eq_one_iff.mp one
    exact ⟨'\\' :: d :: inside, after, rfl, .escaped quotable, closed⟩

theorem ends_closing_iff (isOpening : isQuote quote = true) :
    Ends ⟨some (quote, start), false, brackets⟩ (quote :: rest) ↔
      Ends ⟨none, false, brackets⟩ rest := by
  rw [ends_quoted_iff]
  constructor
  · rintro ⟨inside, after, split, quotable, closed⟩
    have same := quotable_append_inj (ne_slash_of_isQuote isOpening) .nil quotable split
    rwa [same]
  · intro closed
    exact ⟨[], rest, rfl, .nil, closed⟩

theorem ends_plain_iff (notQuote : c ≠ quote) (plain : c ≠ '\\') :
    Ends ⟨some (quote, start), false, brackets⟩ (c :: rest) ↔
      Ends ⟨some (quote, start), false, brackets⟩ rest := by
  rw [ends_quoted_iff, ends_quoted_iff]
  constructor
  · rintro ⟨inside, after, split, quotable, closed⟩
    cases quotable with
    | nil => exact absurd (List.cons_eq_cons.mp split).1 notQuote
    | escaped _ => exact absurd (List.cons_eq_cons.mp split).1 plain
    | @plain d inside _ _ quotable =>
        obtain ⟨rfl, rfl⟩ := List.cons_eq_cons.mp split
        exact ⟨inside, after, rfl, quotable, closed⟩
  · rintro ⟨inside, after, rfl, quotable, closed⟩
    exact ⟨c :: inside, after, rfl, .plain notQuote plain quotable, closed⟩

end Step

/-- A scan follows what is open: one step takes one character off the rest. -/
theorem Regular.ends_cons_iff {scan : Scan} (regular : scan.Regular) {offset : Nat} {c : Char}
    {rest : List Char} :
    scan.Ends (c :: rest) ↔ ∃ next, scan.step? offset c = some next ∧ next.Ends rest := by
  obtain ⟨quote, escaped, brackets⟩ := scan
  cases quote with
  | some opened =>
      obtain ⟨quote, start⟩ := opened
      have isOpening : isQuote quote = true := regular.quotes _ rfl
      cases escaped with
      | true => simp [step?, ends_escaped_iff]
      | false =>
          by_cases slash : c = '\\'
          · subst slash
            simp [step?, ends_slash_iff (ne_slash_of_isQuote isOpening)]
          · by_cases closes : c = quote
            · subst closes
              simp [step?, slash, ends_closing_iff isOpening]
            · simp [step?, slash, closes, ends_plain_iff closes slash]
  | none =>
      obtain rfl : escaped = false := regular.settled rfl
      change ClosedFrom (brackets.map Prod.fst) (c :: rest) ↔ _
      by_cases quotes : isQuote c = true
      · rw [closedFrom_quote_iff quotes]
        simp [step?, quotes, ends_quoted_iff]
      · have unquoted : isQuote c = false := by simpa using quotes
        by_cases opens : isOpener c = true
        · have isOpen : (c == '(' || c == '[') = true := opens
          rw [closedFrom_opener_iff opens]
          simp [step?, unquoted, isOpen, Ends]
        · have notOpen : (c == '(' || c == '[') = false := Bool.eq_false_iff.mpr opens
          by_cases closes : isCloser c = true
          · have isClose : (c == ')' || c == ']') = true := closes
            rw [closedFrom_closer_iff closes]
            cases brackets with
            | nil => simp [step?, unquoted, notOpen, isClose]
            | cons opened outer =>
                by_cases fits : closerOf opened.1 = c
                · simp [step?, unquoted, notOpen, isClose, fits, Ends]
                · simp [step?, unquoted, notOpen, isClose, fits]
          · have notClose : (c == ')' || c == ']') = false := Bool.eq_false_iff.mpr closes
            have plain : isBracket c = false := by simp [isBracket, opens, closes]
            rw [closedFrom_plain_iff unquoted plain]
            simp [step?, unquoted, notOpen, notClose, Ends]

end Scan

section Pieces

variable {separator : Char} {scan : Scan} {piece text : List Char} {found : List (List Char)}

/-- At the top level a separator is neither a quote nor a bracket. -/
theorem plain_of_separates {c : Char} (cuts : separates separator c = true) :
    isQuote c = false ∧ isBracket c = false := by
  simp only [separates, Bool.and_eq_true, Bool.not_eq_true', Bool.or_eq_false_iff] at cuts
  simp [isBracket, isOpener, isCloser, cuts]

/-- A text can be cut exactly when it closes what is open. -/
theorem exists_piecesFrom_iff (regular : scan.Regular) :
    (∃ found, piecesFrom separator scan piece text = some found) ↔ scan.Ends text := by
  induction text generalizing scan piece with
  | nil =>
      rw [Scan.ends_nil_iff, piecesFrom]
      simp
  | cons c rest induction =>
      rw [piecesFrom]
      by_cases cut : (scan.isTopLevel && separates separator c) = true
      · obtain ⟨top, cuts⟩ := Bool.and_eq_true_iff.mp cut
        obtain rfl := regular.settled.eq_start top
        obtain ⟨unquoted, plain⟩ := plain_of_separates cuts
        have skip : Scan.Ends {} (c :: rest) ↔ Scan.Ends {} rest :=
          closedFrom_plain_iff unquoted plain
        rw [if_pos cut, skip, ← induction regular]
        simp only [Option.map_eq_some_iff]
        constructor
        · rintro ⟨_, later, laterCut, -⟩
          exact ⟨later, laterCut⟩
        · rintro ⟨later, laterCut⟩
          exact ⟨_, later, laterCut, rfl⟩
      · rw [if_neg cut, regular.ends_cons_iff]
        simp only [Option.bind_eq_some_iff]
        constructor
        · rintro ⟨found, next, stepped, nextCut⟩
          exact ⟨next, stepped, (induction (regular.step stepped)).mp ⟨found, nextCut⟩⟩
        · rintro ⟨next, stepped, ends⟩
          obtain ⟨found, nextCut⟩ := (induction (regular.step stepped)).mpr ends
          exact ⟨found, next, stepped, nextCut⟩

/-- Whether a text can be cut does not depend on the separator. -/
theorem exists_pieces_iff : (∃ found, pieces separator text = some found) ↔ Closed text :=
  exists_piecesFrom_iff Scan.regular_start

/-- Every piece is a text that holds no separator at the top level.  The first one goes on
with what the scan has passed. -/
theorem exists_first_piece (regular : scan.Regular)
    (cut : piecesFrom separator scan piece text = some found) :
    ∃ first later, found = (piece.reverse ++ first) :: later ∧
      piecesFrom separator scan piece first = some [piece.reverse ++ first] ∧
      ∀ other ∈ later, pieces separator other = some [other] := by
  induction text generalizing scan piece found with
  | nil =>
      rw [piecesFrom] at cut
      split at cut
      · next top =>
          cases cut
          exact ⟨[], [], by simp, by simp [piecesFrom, top], by simp⟩
      · cases cut
  | cons c rest induction =>
      rw [piecesFrom] at cut
      split at cut
      · next isCut =>
          obtain ⟨top, -⟩ := Bool.and_eq_true_iff.mp isCut
          obtain rfl := regular.settled.eq_start top
          obtain ⟨found, restCut, rfl⟩ := Option.map_eq_some_iff.mp cut
          obtain ⟨first, later, rfl, alone, each⟩ := induction regular restCut
          refine ⟨[], first :: later, by simp, by simp [piecesFrom, top], ?_⟩
          rw [List.forall_mem_cons]
          exact ⟨alone, each⟩
      · next notCut =>
          obtain ⟨next, stepped, nextCut⟩ := Option.bind_eq_some_iff.mp cut
          obtain ⟨first, later, rfl, alone, each⟩ := induction (regular.step stepped) nextCut
          refine ⟨c :: first, later, by simp, ?_, each⟩
          rw [piecesFrom, if_neg notCut, stepped, Option.bind_some, alone]
          simp

/-- Quoted text goes into the current piece as it stands. -/
theorem piecesFrom_quoted {quote : Char} (isOpening : isQuote quote = true)
    {inside : List Char} (quotable : Quotable quote inside) (brackets : List (Char × Nat))
    (piece after : List Char) :
    piecesFrom separator ⟨some (quote, 0), false, brackets⟩ piece (inside ++ quote :: after) =
      piecesFrom separator ⟨none, false, brackets⟩ (quote :: (inside.reverse ++ piece)) after := by
  have notSlash := ne_slash_of_isQuote isOpening
  induction quotable generalizing piece with
  | nil => simp [piecesFrom, Scan.isTopLevel, Scan.step?, notSlash]
  | plain notQuote plain _ induction =>
      rw [List.cons_append, piecesFrom]
      simp only [Scan.isTopLevel, Scan.step?, Option.isNone_some, Bool.false_and,
        Bool.false_eq_true, if_false, beq_eq_false_iff_ne.mpr notQuote,
        beq_eq_false_iff_ne.mpr plain, Option.bind_some, induction, List.reverse_cons,
        List.append_assoc, List.singleton_append]
  | escaped _ induction =>
      simp [piecesFrom, Scan.isTopLevel, Scan.step?, induction]

theorem pieces_quoted {quote : Char} (isOpening : isQuote quote = true) {inside : List Char}
    (quotable : Quotable quote inside) :
    pieces separator (quote :: (inside ++ [quote])) = some [quote :: (inside ++ [quote])] := by
  have uncut : separates separator quote = false := by simp [separates, isOpening]
  rw [pieces, piecesFrom]
  simp only [uncut, Bool.and_false, Bool.false_eq_true, if_false, Scan.step?, isOpening, if_true,
    Option.bind_some]
  rw [piecesFrom_quoted isOpening quotable]
  simp [piecesFrom, Scan.isTopLevel]

/-- Trimming a text leaves its trimmed pieces as they are. -/
theorem trimmedPieces_trim (solid : isBlank separator = false) (text : List Char) :
    trimmedPieces separator (trim text) = trimmedPieces separator text := by
  obtain ⟨before, after, beforeBlank, afterBlank, split⟩ := exists_blanks_around_trim text
  cases cut : trimmedPieces separator (trim text) with
  | some found =>
      rw [split, List.append_assoc, trimmedPieces_blank_append solid beforeBlank,
        trimmedPieces_append_blank solid afterBlank cut]
  | none =>
      cases whole : trimmedPieces separator text with
      | none => rfl
      | some found =>
          obtain ⟨raw, rawCut, -⟩ := Option.map_eq_some_iff.mp whole
          have closed := closed_trim (exists_pieces_iff.mp ⟨raw, rawCut⟩)
          obtain ⟨trimmed, trimmedCut⟩ := exists_pieces_iff.mpr closed
          rw [trimmedPieces, trimmedCut] at cut
          cases cut

theorem pieces_of_mem (cut : pieces separator text = some found) (member : piece ∈ found) :
    pieces separator piece = some [piece] := by
  obtain ⟨first, later, rfl, alone, each⟩ := exists_first_piece Scan.regular_start cut
  rcases List.mem_cons.mp member with rfl | isLater
  · exact alone
  · exact each piece isLater

/-- The pieces of a text, the first of which goes on with what the scan has passed. -/
theorem piecesFrom_eq_map (passed : List Char) :
    piecesFrom separator scan (piece ++ passed) text =
      (piecesFrom separator scan piece text).map (·.modifyHead (passed.reverse ++ ·)) := by
  induction text generalizing scan piece with
  | nil =>
      rw [piecesFrom, piecesFrom]
      split <;> simp
  | cons c rest induction =>
      rw [piecesFrom, piecesFrom]
      split
      · rw [Option.map_map]
        congr 1
        funext later
        simp
      · cases scan.step? 0 c with
        | none => rfl
        | some next => exact @induction next (c :: piece)

/-- Plain text in front of another goes into its first piece. -/
theorem pieces_plain_append {plain : List Char}
    (each : ∀ c ∈ plain, isQuote c = false ∧ isBracket c = false ∧ c ≠ separator) :
    pieces separator (plain ++ text) = (pieces separator text).map (·.modifyHead (plain ++ ·)) := by
  have passed (piece : List Char) : piecesFrom separator {} piece (plain ++ text) =
      piecesFrom separator {} (plain.reverse ++ piece) text := by
    induction plain generalizing piece with
    | nil => rfl
    | cons c plain induction =>
        obtain ⟨⟨unquoted, noBracket, other⟩, restPlain⟩ := List.forall_mem_cons.mp each
        simp only [isBracket, isOpener, isCloser, Bool.or_eq_false_iff] at noBracket
        have uncut : separates separator c = false := by simp [separates, other]
        rw [List.cons_append, piecesFrom]
        simp only [uncut, Bool.and_false, Bool.false_eq_true, if_false, Scan.step?, unquoted,
          noBracket, Bool.or_self, Option.bind_some]
        rw [induction restPlain, List.reverse_cons, List.append_assoc, List.singleton_append]
  have mapped := @piecesFrom_eq_map separator {} [] text plain.reverse
  rw [List.nil_append, List.reverse_reverse] at mapped
  rw [pieces, passed, List.append_nil, mapped]
  rfl

end Pieces

/-- Pieces with their offsets, laid out with a separator after each but the last. -/
inductive LaidOut (separator : Char) : Nat → List Char → List (Nat × List Char) → Prop where
  | last {offset : Nat} {piece : List Char} : LaidOut separator offset piece [(offset, piece)]
  | piece {offset : Nat} {piece text : List Char} {found : List (Nat × List Char)} :
      LaidOut separator (offset + utf8Len piece + separator.utf8Size) text found →
      LaidOut separator offset (piece ++ separator :: text) ((offset, piece) :: found)

/-- The text in front of a piece: the pieces before it, each with its separator. -/
def textBefore (separator : Char) (front : List (Nat × List Char)) : List Char :=
  front.flatMap fun entry => entry.2 ++ [separator]

/-- Pieces that make up a text, each of them at its offset. -/
structure Cuts (separator : Char) (text : List Char) (found : List (Nat × List Char)) : Prop where
  joined : [separator].intercalate (found.map Prod.snd) = text
  placed : ∀ front offset piece back, found = front ++ (offset, piece) :: back →
    ∃ after, text = textBefore separator front ++ piece ++ after ∧
      offset = utf8Len (textBefore separator front)

namespace LaidOut

variable {separator : Char} {offset : Nat} {text : List Char} {found : List (Nat × List Char)}

theorem exists_head (laid : LaidOut separator offset text found) :
    ∃ piece later, found = (offset, piece) :: later := by
  cases laid with
  | last => exact ⟨_, _, rfl⟩
  | piece _ => exact ⟨_, _, rfl⟩

theorem joined (laid : LaidOut separator offset text found) :
    [separator].intercalate (found.map Prod.snd) = text := by
  induction laid with
  | last => simp
  | piece later induction =>
      obtain ⟨next, rest, rfl⟩ := later.exists_head
      rw [← induction, List.map_cons, List.map_cons, List.intercalate_cons_cons]
      simp

theorem placed (laid : LaidOut separator offset text found) {front back : List (Nat × List Char)}
    {start : Nat} {piece : List Char} (split : found = front ++ (start, piece) :: back) :
    ∃ after, text = textBefore separator front ++ piece ++ after ∧
      start = offset + utf8Len (textBefore separator front) := by
  induction laid generalizing front with
  | last =>
      obtain ⟨rfl, same⟩ | ⟨_, _, nothing⟩ := List.append_eq_cons_iff.mp split.symm
      · cases same
        exact ⟨[], by simp [textBefore], by simp [textBefore]⟩
      · simp at nothing
  | @piece offset first text found later induction =>
      cases front with
      | nil =>
          cases split
          exact ⟨separator :: text, by simp [textBefore], by simp [textBefore]⟩
      | cons entry front =>
          obtain ⟨rfl, rest⟩ := List.cons_eq_cons.mp split
          obtain ⟨after, rfl, place⟩ := induction rest
          refine ⟨after, by simp [textBefore], ?_⟩
          rw [place]
          simp only [textBefore, List.flatMap_cons, utf8Len_append, utf8Len_cons, utf8Len_nil]
          omega

theorem cuts (laid : LaidOut separator 0 text found) : Cuts separator text found where
  joined := laid.joined
  placed := by
    intro front offset piece back split
    obtain ⟨after, same, place⟩ := laid.placed split
    exact ⟨after, same, by rw [place, Nat.zero_add]⟩

end LaidOut

section Splitter

variable {separator : Char} {text : String} {found : List (Nat × List Char)}

theorem splitFrom_laidOut {whole : String} {scan : Scan} {start offset : Nat}
    {piece text : List Char} (here : offset = start + utf8Len piece.reverse)
    (split : splitFrom whole separator scan start offset piece text = .ok found) :
    LaidOut separator start (piece.reverse ++ text) found := by
  induction text generalizing scan start offset piece found with
  | nil =>
      rw [splitFrom] at split
      split at split
      · cases split
      · split at split
        · cases split
        · cases split
          rw [List.append_nil]
          exact .last
  | cons c rest induction =>
      rw [splitFrom] at split
      split at split
      · next isCut =>
          obtain ⟨-, cuts⟩ := Bool.and_eq_true_iff.mp isCut
          obtain rfl : c = separator := by
            simp only [separates, Bool.and_eq_true, beq_iff_eq] at cuts
            exact cuts.1
          split at split
          · next later laterSplit =>
              cases split
              have laid : LaidOut c (offset + c.utf8Size) ([].reverse ++ rest) later :=
                induction rfl laterSplit
              rw [here] at laid
              exact .piece laid
          · cases split
      · split at split
        · next next stepped =>
            have grown : offset + c.utf8Size = start + utf8Len (c :: piece).reverse := by
              rw [List.reverse_cons, utf8Len_append, utf8Len_cons, utf8Len_nil, here]
              omega
            simpa using induction grown split
        · cases split

theorem splitTopLevel_laidOut (split : splitTopLevel text separator = .ok found) :
    LaidOut separator 0 text.toList found := by
  have laid : LaidOut separator 0 ([].reverse ++ text.toList) found := splitFrom_laidOut rfl split
  exact laid

theorem pieces_of_splitTopLevel (split : splitTopLevel text separator = .ok found) :
    pieces separator text.toList = some (found.map Prod.snd) := by
  rw [← splitTopLevel_eq_pieces, split]
  rfl

/-- A piece is not cut again. -/
theorem splitTopLevel_piece {piece : List Char} (whole : pieces separator piece = some [piece]) :
    splitTopLevel (ofList piece) separator = .ok [(0, piece)] := by
  have seen := splitTopLevel_eq_pieces (ofList piece) separator
  rw [toList_ofList, whole] at seen
  obtain ⟨again, split, single⟩ := Except.exists_ok_of_toOption seen
  obtain ⟨first, later, rfl⟩ := (splitTopLevel_laidOut split).exists_head
  obtain ⟨rfl, nothing⟩ := List.cons_eq_cons.mp single
  rw [split, List.map_eq_nil_iff.mp nothing]

/-- A text is one piece when it is closed and no separator in it stands behind a closed
text. -/
theorem pieces_eq_single_iff {text : List Char} (cuts : separates separator separator = true) :
    pieces separator text = some [text] ↔
      Closed text ∧ ∀ before after, text = before ++ separator :: after → ¬Closed before := by
  constructor
  · intro whole
    refine ⟨exists_pieces_iff.mp ⟨_, whole⟩, ?_⟩
    rintro before after rfl closed
    obtain ⟨found, cut⟩ := exists_pieces_iff.mpr closed
    rw [pieces, piecesFrom_append_separator cuts after Scan.settled_start cut] at whole
    obtain ⟨later, laterCut, joined⟩ := Option.map_eq_some_iff.mp whole
    obtain ⟨first, rest, rfl, -⟩ := exists_first_piece Scan.regular_start cut
    obtain ⟨second, more, rfl, -⟩ := exists_first_piece Scan.regular_start laterCut
    simp at joined
  · rintro ⟨closed, noSeparator⟩
    obtain ⟨found, cut⟩ := exists_pieces_iff.mpr closed
    have viewed := splitTopLevel_eq_pieces (ofList text) separator
    rw [toList_ofList, cut] at viewed
    obtain ⟨placed, split, rfl⟩ := Except.exists_ok_of_toOption viewed
    have laid := splitTopLevel_laidOut split
    rw [toList_ofList] at laid
    cases laid with
    | last => exact cut
    | @piece _ piece after later _ =>
        have alone := pieces_of_mem cut (List.mem_map_of_mem List.mem_cons_self)
        exact absurd (exists_pieces_iff.mp ⟨_, alone⟩) (noSeparator piece after rfl)

theorem exists_lex_trim {piece : List Char} (closed : Closed piece) :
    ∃ tokens, lex (ofList (trim piece)) = .ok tokens := by
  have reads := lex_reads (ofList (trim piece))
  rw [toList_ofList] at reads
  cases read : lex (ofList (trim piece)) with
  | ok tokens => exact ⟨tokens, rfl⟩
  | error error =>
      rw [read] at reads
      exact absurd (closedFrom_nil_iff.mpr (closed_trim closed)) reads.1

end Splitter

section Reading

variable {query : String} {index : Nat} {found : List (Nat × List Char)}

/-- Pieces that the lexer reads are segments unless one is blank. -/
theorem exists_readSegments_iff
    (readable : ∀ entry ∈ found, ∃ tokens, lex (ofList (trim entry.2)) = .ok tokens) :
    (∃ segments, readSegments query index found = .ok segments) ↔
      ∀ entry ∈ found, trim entry.2 ≠ [] := by
  induction found generalizing index with
  | nil => simp [readSegments]
  | cons entry rest induction =>
      obtain ⟨tokens, read⟩ := readable entry List.mem_cons_self
      have later := @induction (index + 1) fun other member =>
        readable other (List.mem_cons_of_mem _ member)
      rw [List.forall_mem_cons, ← later, readSegments]
      by_cases blank : trim entry.2 = []
      · simp [blank]
      · rw [if_neg (by simpa using blank)]
        simp only [Except.bind_eq_ok_iff]
        constructor
        · rintro ⟨_, _, _, segments, restRead, -⟩
          exact ⟨blank, segments, restRead⟩
        · rintro ⟨-, segments, restRead⟩
          exact ⟨_, tokens, read, segments, restRead, rfl⟩

/-- The segments are the trimmed pieces, numbered in order. -/
theorem readSegments_numbered {segments : List Segment}
    (read : readSegments query index found = .ok segments) :
    segments.map (fun segment => (segment.index, segment.text)) =
      (found.zipIdx index).map fun (entry, place) => (place, ofList (trim entry.2)) := by
  induction found generalizing index segments with
  | nil =>
      cases read
      rfl
  | cons entry rest induction =>
      rw [readSegments] at read
      split at read
      · cases read
      · obtain ⟨tokens, -, afterTokens⟩ := Except.bind_eq_ok_iff.mp read
        obtain ⟨later, laterRead, finished⟩ := Except.bind_eq_ok_iff.mp afterTokens
        cases finished
        rw [List.map_cons, List.zipIdx_cons, List.map_cons, induction laterRead]

end Reading

theorem exists_splitQuery_iff {query : String} {found : List (Nat × List Char)}
    (split : splitTopLevel query '|' = .ok found) :
    (∃ parts, splitQuery query = .ok parts) ↔ ∀ entry ∈ found.tail, trim entry.2 ≠ [] := by
  have readable : ∀ entry ∈ found, ∃ tokens, lex (ofList (trim entry.2)) = .ok tokens := by
    intro entry member
    have alone := pieces_of_mem (pieces_of_splitTopLevel split) (List.mem_map_of_mem member)
    exact exists_lex_trim (exists_pieces_iff.mp ⟨_, alone⟩)
  obtain ⟨clause, later, rfl⟩ := (splitTopLevel_laidOut split).exists_head
  obtain ⟨tokens, read⟩ := readable _ List.mem_cons_self
  have segmented : (∃ segments, readSegments query 0 later = .ok segments) ↔
      ∀ entry ∈ later, trim entry.2 ≠ [] :=
    exists_readSegments_iff fun entry member => readable entry (List.mem_cons_of_mem _ member)
  rw [List.tail_cons, ← segmented, splitQuery, split]
  simp only [Except.bind_eq_ok_iff]
  constructor
  · rintro ⟨_, _, ⟨⟩, _, _, segments, segmentsRead, -⟩
    exact ⟨segments, segmentsRead⟩
  · rintro ⟨segments, segmentsRead⟩
    exact ⟨_, _, rfl, tokens, read, segments, segmentsRead, rfl⟩

theorem splitQuery_numbered {query : String} {found : List (Nat × List Char)} {parts : SplitQuery}
    (split : splitTopLevel query '|' = .ok found) (parted : splitQuery query = .ok parts) :
    parts.segments.map (fun segment => (segment.index, segment.text)) =
      found.tail.zipIdx.map fun (entry, place) => (place, ofList (trim entry.2)) := by
  rw [splitQuery, split] at parted
  obtain ⟨_, ⟨⟩, afterSplit⟩ := Except.bind_eq_ok_iff.mp parted
  obtain ⟨tokens, -, afterTokens⟩ := Except.bind_eq_ok_iff.mp afterSplit
  obtain ⟨segments, read, finished⟩ := Except.bind_eq_ok_iff.mp afterTokens
  cases finished
  exact readSegments_numbered read

/-- What the splitter cuts out the lexer reads, so a query is split exactly when its text can
be cut at the pipes and leaves no segment blank. -/
theorem splitter_and_lexer_agree (query : String) :
    (∀ separator found, splitTopLevel query separator = .ok found →
      Cuts separator query.toList found ∧
        ∀ entry ∈ found, (∃ tokens, lex (ofList (trim entry.2)) = .ok tokens) ∧
          splitTopLevel (ofList entry.2) separator = .ok [(0, entry.2)]) ∧
    ((∃ parts, splitQuery query = .ok parts) ↔
      ∃ found, splitTopLevel query '|' = .ok found ∧ ∀ entry ∈ found.tail, trim entry.2 ≠ []) ∧
    ∀ found parts, splitTopLevel query '|' = .ok found → splitQuery query = .ok parts →
      parts.segments.map (fun segment => (segment.index, segment.text)) =
        found.tail.zipIdx.map fun (entry, place) => (place, ofList (trim entry.2)) := by
  refine ⟨fun separator found split => ⟨(splitTopLevel_laidOut split).cuts, ?_⟩, ?_, ?_⟩
  · intro entry member
    have alone := pieces_of_mem (pieces_of_splitTopLevel split) (List.mem_map_of_mem member)
    exact ⟨exists_lex_trim (exists_pieces_iff.mp ⟨_, alone⟩), splitTopLevel_piece alone⟩
  · constructor
    · rintro ⟨parts, parted⟩
      obtain ⟨found, split, -⟩ := Except.bind_eq_ok_iff.mp parted
      exact ⟨found, split, (exists_splitQuery_iff split).mp ⟨parts, parted⟩⟩
    · rintro ⟨found, split, solid⟩
      exact (exists_splitQuery_iff split).mpr solid
  · intro found parts split parted
    exact splitQuery_numbered split parted

/-- A pipe in quotes cuts nothing. -/
theorem splitter_and_lexer_agree_quoted_pipe :
    splitTopLevel "i|x '|'" '|' = .ok [(0, "i".toList), (2, "x '|'".toList)] ∧
      (∃ tokens, lex (ofList (trim "x '|'".toList)) = .ok tokens) ∧
      splitTopLevel (ofList "x '|'".toList) '|' = .ok [(0, "x '|'".toList)] ∧
      ∃ parts, splitQuery "i|x '|'" = .ok parts ∧
        parts.segments.map (fun segment => (segment.index, segment.text)) =
          [(0, ofList (trim "x '|'".toList))] := by
  have split : splitTopLevel "i|x '|'" '|' = .ok [(0, "i".toList), (2, "x '|'".toList)] := by
    decide
  obtain ⟨cuts, accepted, numbered⟩ := splitter_and_lexer_agree "i|x '|'"
  obtain ⟨-, each⟩ := cuts '|' _ split
  obtain ⟨read, alone⟩ := each (2, "x '|'".toList) (by simp)
  obtain ⟨parts, parted⟩ := accepted.mpr ⟨_, split, by decide⟩
  exact ⟨split, read, alone, parts, parted, numbered _ parts split parted⟩

end LogPipe.Query
