import LogPipe.Query.Block
import LogPipe.Proofs.Query.Agreement

/-!
# Blocks in square brackets

A closed text that is put into square brackets is one block, and no scan stops inside it:
the splitter finds no separator there, and the scan for blocks ends it at the bracket that
was put behind it.

The text in front of the blocks is found by a scan of its own, in which a backslash keeps no
quote from closing.  The last part compares the two scans.
-/

namespace LogPipe.Query

open LogPipe.Text String

/-- A text that closes the given brackets, the innermost first, read from its front. -/
inductive Closing : List Char → List Char → Prop where
  | nil : Closing [] []
  | plain {c : Char} {openers text : List Char} :
      isQuote c = false → isBracket c = false → Closing openers text →
      Closing openers (c :: text)
  | opener {c : Char} {openers text : List Char} :
      isOpener c = true → Closing (c :: openers) text → Closing openers (c :: text)
  | closer {opener : Char} {openers text : List Char} :
      Closing openers text → Closing (opener :: openers) (closerOf opener :: text)
  | quoted {quote : Char} {openers inside text : List Char} :
      isQuote quote = true → Quotable quote inside → Closing openers text →
      Closing openers (quote :: (inside ++ quote :: text))

theorem closing_of_closedFrom {openers text : List Char} (closed : ClosedFrom openers text) :
    Closing openers text := by
  induction length : text.length using Nat.strong_induction_on generalizing openers text with
  | _ count induction =>
      subst length
      cases text with
      | nil =>
          obtain rfl := closedFrom_nothing_iff.mp closed
          exact .nil
      | cons c rest =>
          by_cases quotes : isQuote c = true
          · obtain ⟨inside, after, rfl, quotable, afterClosed⟩ :=
              (closedFrom_quote_iff quotes).mp closed
            exact .quoted quotes quotable (induction _ (by simp; omega) afterClosed rfl)
          · have unquoted : isQuote c = false := by simpa using quotes
            by_cases opens : isOpener c = true
            · exact .opener opens
                (induction _ (Nat.lt_succ_self _) ((closedFrom_opener_iff opens).mp closed) rfl)
            · by_cases closes : isCloser c = true
              · obtain ⟨opener, outer, rfl, rfl, restClosed⟩ :=
                  (closedFrom_closer_iff closes).mp closed
                exact .closer (induction _ (Nat.lt_succ_self _) restClosed rfl)
              · have plain : isBracket c = false := by simp [isBracket, opens, closes]
                exact .plain unquoted plain (induction _ (Nat.lt_succ_self _)
                  ((closedFrom_plain_iff unquoted plain).mp closed) rfl)

theorem Closed.closing {text : List Char} (closed : Closed text) : Closing [] text :=
  closing_of_closedFrom (closedFrom_nil_iff.mpr closed)

/-- Behind a closed text the brackets are open that were open in front of it. -/
theorem Closing.closedFrom_append {openers text : List Char} (closing : Closing openers text)
    {outer after : List Char} (closed : ClosedFrom outer after) :
    ClosedFrom (openers ++ outer) (text ++ after) := by
  induction closing with
  | nil => exact closed
  | plain unquoted plain _ induction => exact (closedFrom_plain_iff unquoted plain).mpr induction
  | opener opens _ induction => exact (closedFrom_opener_iff opens).mpr induction
  | closer _ induction =>
      exact (closedFrom_closer_iff (isCloser_closerOf _)).mpr ⟨_, _, rfl, rfl, induction⟩
  | quoted isOpening quotable _ induction =>
      exact (closedFrom_quote_iff isOpening).mpr ⟨_, _, by simp, quotable, induction⟩

/-- Inside brackets a closed text goes into the current piece. -/
theorem piecesFrom_closing {separator : Char} {openers text : List Char}
    (closing : Closing openers text) {outer : List (Char × Nat)} (inside : outer ≠ [])
    (piece after : List Char) :
    piecesFrom separator ⟨none, false, openers.map (·, 0) ++ outer⟩ piece (text ++ after) =
      piecesFrom separator ⟨none, false, outer⟩ (text.reverse ++ piece) after := by
  have nested (openers : List Char) : (openers.map (·, 0) ++ outer).isEmpty = false := by
    simp [inside]
  have uncut (openers : List Char) :
      Scan.isTopLevel ⟨none, false, openers.map (·, 0) ++ outer⟩ = false := nested openers
  induction closing generalizing piece with
  | nil => rfl
  | @plain c openers text unquoted plain _ induction =>
      simp only [isBracket, isOpener, isCloser, Bool.or_eq_false_iff] at plain
      rw [List.cons_append, piecesFrom]
      simp [uncut, Scan.step?, unquoted, plain, induction]
  | @opener c openers text opens _ induction =>
      have unquoted : isQuote c = false := isQuote_of_isBracket (by simp [isBracket, opens])
      have isOpen : (c == '(' || c == '[') = true := opens
      have deeper := induction (c :: piece)
      rw [List.map_cons, List.cons_append] at deeper
      rw [List.cons_append, piecesFrom]
      simp [uncut, Scan.step?, unquoted, isOpen, deeper]
  | @closer opener openers text _ induction =>
      have closes := isCloser_closerOf opener
      have unquoted : isQuote (closerOf opener) = false :=
        isQuote_of_isBracket (by simp [isBracket, closes])
      have notOpen : (closerOf opener == '(' || closerOf opener == '[') = false :=
        isOpener_of_isCloser closes
      have isClose : (closerOf opener == ')' || closerOf opener == ']') = true := closes
      rw [List.cons_append, piecesFrom, uncut]
      simp [Scan.step?, unquoted, notOpen, isClose, induction]
  | @quoted quote openers inner text isOpening quotable _ induction =>
      have shape : quote :: (inner ++ quote :: text) ++ after =
          quote :: (inner ++ quote :: (text ++ after)) := by simp
      rw [shape, piecesFrom]
      simp [uncut, Scan.step?, isOpening, piecesFrom_quoted isOpening quotable, induction]

/-- A scan for blocks that finds some in the rest of a text, wherever that stands. -/
def Finds (quote : Option Char) (depth : Nat) (block text : List Char) (found : List String) :
    Prop :=
  ∀ whole opened offset,
    blocksFrom whole ⟨quote, false, depth, opened, block⟩ offset text = .ok found

namespace Finds

variable {depth : Nat} {block text after : List Char} {found : List String}

/-- Quoted text goes into the current block. -/
theorem quoted {quote : Char} {inside : List Char} (isOpening : isQuote quote = true)
    (quotable : Quotable quote inside)
    (finds : Finds none depth (quote :: (inside.reverse ++ block)) after found) :
    Finds (some quote) depth block (inside ++ quote :: after) found := by
  have notSlash := ne_slash_of_isQuote isOpening
  induction quotable generalizing block with
  | nil =>
      intro whole opened offset
      simpa [blocksFrom, notSlash] using finds whole opened _
  | plain notQuote plain _ induction =>
      intro whole opened offset
      rw [List.cons_append, blocksFrom]
      simpa [notQuote, plain] using induction (by simpa using finds) whole opened _
  | escaped _ induction =>
      intro whole opened offset
      rw [List.cons_append, List.cons_append, blocksFrom]
      simpa [blocksFrom] using induction (by simpa using finds) whole opened _

/-- How many of the open brackets are square ones, which alone count for blocks. -/
def squares (openers : List Char) : Nat :=
  openers.countP fun opener => closerOf opener == ']'

/-- Inside a block a closed text goes into the block. -/
theorem closing {openers : List Char} (closing : Closing openers text)
    (finds : Finds none (depth + 1) (text.reverse ++ block) after found) :
    Finds none (depth + 1 + squares openers) block (text ++ after) found := by
  induction closing generalizing block with
  | nil => exact finds
  | @plain c openers text unquoted plain _ induction =>
      simp only [isBracket, isOpener, isCloser, Bool.or_eq_false_iff] at plain
      intro whole opened offset
      rw [List.cons_append, blocksFrom]
      simpa [unquoted, plain] using induction (by simpa using finds) whole opened _
  | @opener c openers text opens _ induction =>
      have deeper : Finds none (depth + 1 + squares (c :: openers)) (c :: block) (text ++ after)
          found := induction (by simpa using finds)
      intro whole opened offset
      rw [List.cons_append, blocksFrom]
      rcases isOpener_eq_true_iff.mp opens with rfl | rfl
      · have round : squares ('(' :: openers) = squares openers := by simp [squares, closerOf]
        rw [round] at deeper
        simpa [isQuote] using deeper whole opened _
      · have square : squares ('[' :: openers) = squares openers + 1 := by
          simp [squares, closerOf]
        rw [square, ← Nat.add_assoc] at deeper
        simpa [isQuote, Nat.add_eq_zero_iff] using deeper whole opened _
  | @closer opener openers text _ induction =>
      have shallower : Finds none (depth + 1 + squares openers) (closerOf opener :: block)
          (text ++ after) found := induction (by simpa using finds)
      intro whole opened offset
      rw [List.cons_append]
      by_cases square : closerOf opener = ']'
      · have count : depth + 1 + squares (opener :: openers) = depth + squares openers + 2 := by
          simp only [squares, List.countP_cons, square, beq_self_eq_true, if_true]
          omega
        have left : depth + squares openers + 1 = depth + 1 + squares openers := by omega
        rw [square] at shallower ⊢
        rw [count, blocksFrom]
        simpa [isQuote, left] using shallower whole opened _
      · have isRound : closerOf opener = ')' := by
          rcases isCloser_eq_true_iff.mp (isCloser_closerOf opener) with round | other
          · exact round
          · exact absurd other square
        have count : squares (opener :: openers) = squares openers := by
          simp [squares, isRound]
        rw [isRound] at shallower ⊢
        rw [count, blocksFrom]
        simpa [isQuote] using shallower whole opened _
  | @quoted quote openers inner text isOpening quotable _ induction =>
      have shape : quote :: (inner ++ quote :: text) ++ after =
          quote :: (inner ++ quote :: (text ++ after)) := by simp
      intro whole opened offset
      rw [shape, blocksFrom]
      simpa [isOpening] using
        quoted isOpening quotable (induction (by simpa using finds)) whole opened _

/-- A closed text in square brackets is a block. -/
theorem bracketed (closed : Closed text) (later : ∀ block, Finds none 0 block after found) :
    ∀ block, Finds none 0 block ('[' :: (text ++ ']' :: after))
      (ofList (trim text) :: found) := by
  have ends : Finds none 1 (text.reverse ++ []) (']' :: after) (ofList (trim text) :: found) := by
    intro whole opened offset
    rw [blocksFrom]
    simp [isQuote, later _ whole opened _]
  intro block whole opened offset
  rw [blocksFrom]
  have inside : Finds none 1 [] (text ++ ']' :: after) (ofList (trim text) :: found) :=
    @closing 0 [] text _ _ [] closed.closing ends
  simpa [isQuote] using inside whole offset _

end Finds

/-- Texts in square brackets, with a blank in front of each. -/
def blocksText : List (List Char) → List Char
  | [] => []
  | query :: queries => ' ' :: '[' :: (query ++ ']' :: blocksText queries)

section Texts

variable {query : List Char} {queries : List (List Char)}

theorem getLast?_blocksText (queries : List (List Char)) {c : Char}
    (isLast : (']' :: blocksText queries).getLast? = some c) :
    c = ']' := by
  induction queries with
  | nil =>
      cases isLast
      rfl
  | cons query queries induction =>
      apply induction
      rw [← isLast, blocksText]
      simp [List.getLast?_cons, List.getLast?_append]

theorem tight_blocks (query : List Char) (queries : List (List Char)) :
    Tight ('[' :: (query ++ ']' :: blocksText queries)) := by
  constructor
  · rintro c ⟨⟩
    decide
  · intro c isLast
    have closes : c = ']' := by
      apply getLast?_blocksText queries
      rw [← isLast]
      simp [List.getLast?_cons, List.getLast?_append]
    rw [closes]
    decide

/-- Blocks are trimmed by taking away the first blank. -/
theorem trim_blocksText (query : List Char) (queries : List (List Char)) :
    trim (blocksText (query :: queries)) = '[' :: (query ++ ']' :: blocksText queries) := by
  have trimmed := trim_blank_append blankRun_space ('[' :: (query ++ ']' :: blocksText queries))
  rwa [trim_eq_self (tight_blocks query queries)] at trimmed

theorem closed_blocksText (closed : ∀ query ∈ queries, Closed query) :
    Closed (blocksText queries) := by
  induction queries with
  | nil => exact closedFrom_nil_iff.mp (closedFrom_nothing_iff.mpr rfl)
  | cons query queries induction =>
      rw [List.forall_mem_cons] at closed
      rw [← closedFrom_nil_iff, blocksText, closedFrom_plain_iff (by decide) (by decide),
        closedFrom_opener_iff (by decide)]
      have rest : ClosedFrom ['['] (']' :: blocksText queries) :=
        (closedFrom_closer_iff (by decide)).mpr
          ⟨'[', [], rfl, by decide, closedFrom_nil_iff.mpr (induction closed.2)⟩
      exact closed.1.closing.closedFrom_append rest

/-- The blocks of a text are the closed texts that it was made of, without blanks around. -/
theorem finds_blocksText (closed : ∀ query ∈ queries, Closed query) (block : List Char) :
    Finds none 0 block (blocksText queries) (queries.map fun query => ofList (trim query)) := by
  induction queries generalizing block with
  | nil =>
      intro whole opened offset
      rfl
  | cons query queries induction =>
      rw [List.forall_mem_cons] at closed
      have found := Finds.bracketed closed.1 (induction closed.2) (' ' :: block)
      intro whole opened offset
      rw [blocksText, blocksFrom]
      simpa [isQuote] using found whole opened _

theorem bracketBlocks_blocksText (closed : ∀ query ∈ queries, Closed query) :
    bracketBlocks (ofList (trim (blocksText queries))) =
      .ok (queries.map fun query => ofList (trim query)) := by
  rw [bracketBlocks, toList_ofList]
  cases queries with
  | nil => rfl
  | cons query queries =>
      rw [List.forall_mem_cons] at closed
      rw [trim_blocksText]
      exact Finds.bracketed closed.1 (finds_blocksText closed.2) [] _ 0 0

/-- No separator counts inside the blocks, nor between them. -/
theorem pieces_blocksText {separator : Char} (solid : isBlank separator = false)
    (closed : ∀ query ∈ queries, Closed query) :
    pieces separator (blocksText queries) = some [blocksText queries] := by
  have passed (piece : List Char) : piecesFrom separator {} piece (blocksText queries) =
      some [piece.reverse ++ blocksText queries] := by
    induction queries generalizing piece with
    | nil => simp [blocksText, piecesFrom, Scan.isTopLevel]
    | cons query queries induction =>
        rw [List.forall_mem_cons] at closed
        have uncut : separates separator '[' = false := by simp [separates]
        have inside : piecesFrom separator ⟨none, false, [('[', 0)]⟩ ('[' :: ' ' :: piece)
            (query ++ ']' :: blocksText queries) = _ :=
          piecesFrom_closing closed.1.closing (List.cons_ne_nil _ _) _ _
        rw [blocksText, piecesFrom_blank solid rfl (by decide), piecesFrom]
        simp [uncut, Scan.step?, isQuote, inside, piecesFrom, Scan.isTopLevel, closerOf,
          induction closed.2]
  exact passed []

end Texts

/-! ## The text in front of the blocks -/

/-- A text whose quotes close although a backslash keeps no quote from closing, and its
characters outside quotes. -/
inductive OutsideBareQuotes : List Char → List Char → Prop where
  | nil : OutsideBareQuotes [] []
  | plain {c : Char} {text outside : List Char} :
      isQuote c = false → OutsideBareQuotes text outside →
      OutsideBareQuotes (c :: text) (c :: outside)
  | quoted {quote : Char} {inside text outside : List Char} :
      isQuote quote = true → quote ∉ inside → OutsideBareQuotes text outside →
      OutsideBareQuotes (quote :: inside ++ quote :: text) outside

section Front

variable {text before after : List Char}

/-- The text up to a bracket is cut off in front of a bracket, if at all. -/
theorem exists_beforeBracket_append (quote : Option Char) (text : List Char) :
    ∃ rest, text = beforeBracket quote text ++ rest ∧ ∀ c ∈ rest.head?, c = '[' := by
  induction text generalizing quote with
  | nil => exact ⟨[], rfl, by rintro c ⟨⟩⟩
  | cons c text induction =>
      have kept (quote : Option Char) :
          ∃ rest, c :: text = (c :: beforeBracket quote text) ++ rest ∧
            ∀ d ∈ rest.head?, d = '[' := by
        obtain ⟨rest, split, starts⟩ := induction quote
        exact ⟨rest, congrArg (c :: ·) split, starts⟩
      rw [beforeBracket.eq_def]
      simp only
      split
      · exact kept _
      · split
        · exact kept _
        · split
          · next bracket => exact ⟨c :: text, rfl, by rintro d ⟨⟩; exact eq_of_beq bracket⟩
          · exact kept _

/-- The rest of a text, from inside a quote or from outside, that ends outside quotes and has no
opening square bracket there, if no backslash keeps a quote from closing. -/
def EndsBare : Option Char → List Char → Prop
  | none, text => ∃ outside, OutsideBareQuotes text outside ∧ '[' ∉ outside
  | some quote, text => ∃ inside rest outside, text = inside ++ quote :: rest ∧ quote ∉ inside ∧
      OutsideBareQuotes rest outside ∧ '[' ∉ outside

theorem endsBare_nil_iff {quote : Option Char} : EndsBare quote [] ↔ quote = none := by
  cases quote with
  | none => exact iff_of_true ⟨[], .nil, List.not_mem_nil⟩ rfl
  | some quote =>
      constructor
      · rintro ⟨inside, rest, outside, split, -⟩
        simp at split
      · rintro ⟨⟩

theorem endsBare_inside_iff {quote c : Char} :
    EndsBare (some quote) (c :: text) ↔
      EndsBare (if c == quote then none else some quote) text := by
  by_cases closes : c = quote
  · subst closes
    rw [beq_self_eq_true, if_pos rfl]
    constructor
    · rintro ⟨inside, rest, outside, split, other, bare, noBracket⟩
      cases inside with
      | nil =>
          obtain ⟨-, rfl⟩ := List.cons_eq_cons.mp split
          exact ⟨outside, bare, noBracket⟩
      | cons d inside =>
          obtain ⟨rfl, -⟩ := List.cons_eq_cons.mp split
          exact absurd List.mem_cons_self other
    · rintro ⟨outside, bare, noBracket⟩
      exact ⟨[], text, outside, rfl, List.not_mem_nil, bare, noBracket⟩
  · rw [if_neg (by simpa using closes)]
    constructor
    · rintro ⟨inside, rest, outside, split, other, bare, noBracket⟩
      cases inside with
      | nil => exact absurd (List.head_eq_of_cons_eq split) closes
      | cons d inside =>
          obtain ⟨rfl, rfl⟩ := List.cons_eq_cons.mp split
          exact ⟨inside, rest, outside, rfl, List.not_mem_of_not_mem_cons other, bare, noBracket⟩
    · rintro ⟨inside, rest, outside, rfl, other, bare, noBracket⟩
      have notQuote : quote ≠ c := fun same => closes same.symm
      exact ⟨c :: inside, rest, outside, rfl, List.not_mem_cons_of_ne_of_not_mem notQuote other,
        bare, noBracket⟩

theorem endsBare_quote_iff {c : Char} (isOpening : isQuote c = true) :
    EndsBare none (c :: text) ↔ EndsBare (some c) text := by
  constructor
  · rintro ⟨outside, bare, noBracket⟩
    generalize whole : c :: text = line at bare
    cases bare with
    | nil => cases whole
    | plain unquoted _ =>
        obtain ⟨rfl, -⟩ := List.cons_eq_cons.mp whole
        rw [isOpening] at unquoted
        cases unquoted
    | quoted _ other bare =>
        obtain ⟨rfl, rfl⟩ := List.cons_eq_cons.mp whole
        exact ⟨_, _, outside, rfl, other, bare, noBracket⟩
  · rintro ⟨inside, rest, outside, rfl, other, bare, noBracket⟩
    exact ⟨outside, .quoted isOpening other bare, noBracket⟩

theorem endsBare_plain_iff {c : Char} (unquoted : isQuote c = false) :
    EndsBare none (c :: text) ↔ c ≠ '[' ∧ EndsBare none text := by
  constructor
  · rintro ⟨outside, bare, noBracket⟩
    generalize whole : c :: text = line at bare
    cases bare with
    | nil => cases whole
    | plain _ bare =>
        obtain ⟨rfl, rfl⟩ := List.cons_eq_cons.mp whole
        exact ⟨(List.ne_of_not_mem_cons noBracket).symm, _, bare,
          List.not_mem_of_not_mem_cons noBracket⟩
    | quoted isOpening _ _ =>
        obtain ⟨rfl, -⟩ := List.cons_eq_cons.mp whole
        rw [unquoted] at isOpening
        cases isOpening
  · rintro ⟨other, outside, bare, noBracket⟩
    exact ⟨c :: outside, .plain unquoted bare,
      List.not_mem_cons_of_ne_of_not_mem other.symm noBracket⟩

/-- The text in front of a bracket is cut off there exactly if the bracket is the first that
stands outside quotes when no backslash keeps a quote from closing. -/
theorem beforeBracket_eq_iff (quote : Option Char) (after : List Char) :
    beforeBracket quote (before ++ '[' :: after) = before ↔ EndsBare quote before := by
  induction before generalizing quote with
  | nil =>
      rw [endsBare_nil_iff]
      cases quote <;> simp [beforeBracket, isQuote]
  | cons c before induction =>
      cases quote with
      | some quote =>
          rw [List.cons_append, beforeBracket, List.cons.injEq, endsBare_inside_iff, ← induction]
          simp
      | none =>
          cases quotes : isQuote c with
          | true => simp [beforeBracket, quotes, endsBare_quote_iff, induction]
          | false =>
              rw [endsBare_plain_iff quotes]
              by_cases bracket : c = '['
              · subst bracket
                simp [beforeBracket, quotes]
              · simp [beforeBracket, quotes, bracket, induction]

/-- Trimming hides no other place to cut. -/
theorem trim_beforeBracket_eq_iff :
    trim (beforeBracket none (before ++ '[' :: after)) = trim before ↔ EndsBare none before := by
  rw [← beforeBracket_eq_iff none after]
  refine ⟨fun same => ?_, fun same => by rw [same]⟩
  have longer {front back : List Char} (same : trim (front ++ '[' :: back) = trim front) :
      False := by
    have blank := isBlank_of_trim_append same
    revert blank
    decide
  obtain ⟨rest, split, starts⟩ := exists_beforeBracket_append none (before ++ '[' :: after)
  generalize beforeBracket none (before ++ '[' :: after) = shown at same split
  rcases List.append_eq_append_iff.mp split with ⟨more, rfl, follows⟩ | ⟨more, rfl, follows⟩
  · cases more with
    | nil => exact List.append_nil before
    | cons c more =>
        obtain ⟨rfl, -⟩ := List.cons_eq_cons.mp follows
        exact (longer same).elim
  · cases more with
    | nil => exact (List.append_nil shown).symm
    | cons c more =>
        obtain rfl := starts c (by simp [follows])
        exact (longer same.symm).elim

end Front

section Blocks

variable {whole : String} {quote : Char} {depth opened offset : Nat} {block text : List Char}
  {found : List String}

/-- A scan for blocks that is not over inside a quote finds the end of the quote. -/
theorem exists_quoted_of_blocksFrom
    (read : blocksFrom whole ⟨some quote, false, 0, opened, block⟩ offset text = .ok found)
    (some : found ≠ []) :
    ∃ inside rest next, text = inside ++ quote :: rest ∧ Quotable quote inside ∧
      ∃ later, blocksFrom whole ⟨none, false, 0, opened, later⟩ next rest = .ok found := by
  fun_induction splitQuoted quote text generalizing offset block with
  | case1 =>
      cases read
      exact absurd rfl some
  | case2 =>
      cases read
      exact absurd rfl some
  | case3 c rest induction =>
      obtain ⟨inside, after, next, rfl, quotable, done⟩ :=
        induction (by simpa [blocksFrom] using read)
      exact ⟨_, after, next, rfl, .escaped quotable, done⟩
  | case4 c rest notLast notSlash closes =>
      have plain : c ≠ '\\' := by
        rintro rfl
        cases rest with
        | nil => exact notLast rfl rfl
        | cons d later => exact notSlash d later rfl rfl
      obtain rfl := eq_of_beq closes
      exact ⟨[], rest, _, rfl, .nil, _, by simpa [blocksFrom, plain] using read⟩
  | case5 c rest notLast notSlash other induction =>
      have plain : c ≠ '\\' := by
        rintro rfl
        cases rest with
        | nil => exact notLast rfl rfl
        | cons d later => exact notSlash d later rfl rfl
      have notQuote : c ≠ quote := by simpa using other
      obtain ⟨inside, after, next, rfl, quotable, done⟩ :=
        induction (by simpa [blocksFrom, plain, notQuote] using read)
      exact ⟨_, after, next, rfl, .plain notQuote plain quotable, done⟩

/-- The block that is open in a scan ends at a closing bracket. -/
theorem exists_block_of_blocksFrom {scan : BlockScan} (inside : 0 < scan.depth)
    (read : blocksFrom whole scan offset text = .ok found) :
    ∃ inner after later, text = inner ++ ']' :: after ∧
      found = ofList (trim (scan.block.reverse ++ inner)) :: later := by
  induction text generalizing scan offset with
  | nil =>
      rw [blocksFrom, if_pos inside] at read
      cases read
  | cons c rest induction =>
      have grows {next : BlockScan}
          (later : blocksFrom whole next (offset + c.utf8Size) rest = .ok found)
          (deep : 0 < next.depth) (grown : next.block = c :: scan.block) :
          ∃ inner after later, c :: rest = inner ++ ']' :: after ∧
            found = ofList (trim (scan.block.reverse ++ inner)) :: later := by
        obtain ⟨inner, after, more, rfl, rfl⟩ := induction deep later
        exact ⟨c :: inner, after, more, rfl, by simp [grown]⟩
      rw [blocksFrom] at read
      split at read
      · split at read
        · exact grows read inside rfl
        · split at read
          · exact grows read inside rfl
          · split at read
            · exact grows read inside rfl
            · exact grows read inside rfl
      · split at read
        · exact grows read inside rfl
        · split at read
          · rw [if_neg (by simpa using Nat.ne_of_gt inside)] at read
            exact grows read (Nat.succ_pos _) rfl
          · split at read
            · next closes =>
                obtain rfl := eq_of_beq closes
                split at read
                · next shallow => exact absurd inside (by simp [shallow])
                · split at read
                  · cases read
                    exact ⟨[], rest, _, rfl, by rw [List.append_nil]⟩
                  · cases read
                · exact grows read (Nat.succ_pos _) rfl
            · exact grows read inside rfl

/-- A text in which a scan finds blocks outside all others: the closed quotes and the other text
in front of the first block, the block, and the rest. -/
theorem exists_first_of_blocksFrom {first : String} {later : List String}
    (read : blocksFrom whole ⟨none, false, 0, opened, block⟩ offset text =
      .ok (first :: later)) :
    ∃ before inner after outside, text = before ++ '[' :: (inner ++ ']' :: after) ∧
      first = ofList (trim inner) ∧ OutsideQuotes before outside ∧ '[' ∉ outside ∧
      ']' ∉ outside := by
  induction size : text.length using Nat.strong_induction_on generalizing text offset block with
  | _ count induction =>
      subst size
      cases text with
      | nil => cases read
      | cons c rest =>
          rw [blocksFrom] at read
          simp only at read
          split at read
          · next quotes =>
              obtain ⟨inside, rest, next, rfl, quotable, _, read⟩ :=
                exists_quoted_of_blocksFrom read (List.cons_ne_nil _ _)
              obtain ⟨before, inner, after, outside, rfl, same, out, noOpener, noCloser⟩ :=
                induction _ (by simp; omega) read rfl
              exact ⟨c :: inside ++ c :: before, inner, after, outside, by simp, same,
                .quoted quotes quotable out, noOpener, noCloser⟩
          · next unquoted =>
              split at read
              · next opens =>
                  obtain rfl := eq_of_beq opens
                  obtain ⟨inner, after, more, rfl, same⟩ :=
                    exists_block_of_blocksFrom Nat.one_pos read
                  obtain ⟨rfl, -⟩ := List.cons_eq_cons.mp same
                  exact ⟨[], inner, after, [], rfl, rfl, .nil, List.not_mem_nil, List.not_mem_nil⟩
              · next notOpener =>
                  split at read
                  · cases read
                  · next notCloser =>
                      obtain ⟨before, inner, after, outside, rfl, same, out, noOpener, noCloser⟩ :=
                        induction _ (Nat.lt_succ_self _) read rfl
                      refine ⟨c :: before, inner, after, c :: outside, rfl, same,
                        .plain (by simpa using unquoted) out, ?_, ?_⟩
                      · exact List.not_mem_cons_of_ne_of_not_mem
                          (fun same => notOpener (beq_iff_eq.mpr same.symm)) noOpener
                      · exact List.not_mem_cons_of_ne_of_not_mem
                          (fun same => notCloser (beq_iff_eq.mpr same.symm)) noCloser

end Blocks

/-- A text in which no backslash stands in front of a quote. -/
def EscapesNoQuote (text : List Char) : Prop :=
  ∀ front c back, text = front ++ '\\' :: c :: back → isQuote c = false

section Escapes

variable {quote : Char} {text inside outside before after : List Char}

theorem EscapesNoQuote.of_append (before after : List Char)
    (free : EscapesNoQuote (before ++ (text ++ after))) : EscapesNoQuote text := by
  rintro front c back rfl
  exact free (before ++ front) c (back ++ after) (by simp)

theorem Quotable.not_mem (quotable : Quotable quote inside) (isOpening : isQuote quote = true)
    (free : EscapesNoQuote inside) : quote ∉ inside := by
  induction quotable with
  | nil => exact List.not_mem_nil
  | @plain c rest notQuote _ _ induction =>
      have restFree : EscapesNoQuote rest :=
        .of_append [c] [] (by simpa using free)
      exact List.not_mem_cons_of_ne_of_not_mem notQuote.symm (induction restFree)
  | @escaped c rest _ induction =>
      have restFree : EscapesNoQuote rest :=
        .of_append ['\\', c] [] (by simpa using free)
      have other : quote ≠ c := by
        rintro rfl
        rw [free [] quote rest rfl] at isOpening
        cases isOpening
      exact List.not_mem_cons_of_ne_of_not_mem (ne_slash_of_isQuote isOpening)
        (List.not_mem_cons_of_ne_of_not_mem other (induction restFree))

/-- Where no backslash stands in front of a quote, it does not matter what backslashes do. -/
theorem OutsideQuotes.bare (out : OutsideQuotes text outside) (free : EscapesNoQuote text) :
    OutsideBareQuotes text outside := by
  induction out with
  | nil => exact .nil
  | @plain c text outside unquoted _ induction =>
      have restFree : EscapesNoQuote text :=
        .of_append [c] [] (by simpa using free)
      exact .plain unquoted (induction restFree)
  | @quoted quote inside text outside isOpening quotable _ induction =>
      have insideFree : EscapesNoQuote inside :=
        .of_append [quote] (quote :: text) (by simpa using free)
      have restFree : EscapesNoQuote text :=
        .of_append (quote :: (inside ++ [quote])) [] (by simpa using free)
      exact .quoted isOpening (quotable.not_mem isOpening insideFree) (induction restFree)

end Escapes

/-- The scan for blocks and the cut in front of them find the same bracket exactly if the text in
front of the first block also ends outside quotes when a backslash keeps no quote from closing,
and has no square bracket outside those quotes.  In particular they do where no quote is escaped. -/
theorem textBeforeBrackets_of_blocks {text first : String} {later : List String}
    (found : bracketBlocks text = .ok (first :: later)) :
    ∃ before inner after outside, text.toList = before ++ '[' :: (inner ++ ']' :: after) ∧
      first = ofList (trim inner) ∧
      OutsideQuotes before outside ∧ '[' ∉ outside ∧ ']' ∉ outside ∧
      (textBeforeBrackets text = ofList (trim before) ↔
        ∃ bare, OutsideBareQuotes before bare ∧ '[' ∉ bare) ∧
      (EscapesNoQuote before → textBeforeBrackets text = ofList (trim before)) := by
  obtain ⟨before, inner, after, outside, split, same, out, noOpener, noCloser⟩ :=
    exists_first_of_blocksFrom found
  have agrees : textBeforeBrackets text = ofList (trim before) ↔
      ∃ bare, OutsideBareQuotes before bare ∧ '[' ∉ bare := by
    rw [textBeforeBrackets, split, ofList_inj]
    exact trim_beforeBracket_eq_iff
  exact ⟨before, inner, after, outside, split, same, out, noOpener, noCloser, agrees,
    fun free => agrees.mpr ⟨outside, out.bare free, noOpener⟩⟩

/-- Two escaped quotes in one quoted text leave both readings outside quotes. -/
theorem textBeforeBrackets_of_blocks_twice :
    bracketBlocks "\"a\\\"b\\\"\" [x]" = .ok ["x"] ∧
      ∃ before inner after outside,
        "\"a\\\"b\\\"\" [x]".toList = before ++ '[' :: (inner ++ ']' :: after) ∧
        "x" = ofList (trim inner) ∧
        OutsideQuotes before outside ∧ '[' ∉ outside ∧ ']' ∉ outside ∧
        (textBeforeBrackets "\"a\\\"b\\\"\" [x]" = ofList (trim before) ↔
          ∃ bare, OutsideBareQuotes before bare ∧ '[' ∉ bare) ∧
        (EscapesNoQuote before →
          textBeforeBrackets "\"a\\\"b\\\"\" [x]" = ofList (trim before)) := by
  have found : bracketBlocks "\"a\\\"b\\\"\" [x]" = .ok ["x"] := by decide
  exact ⟨found, textBeforeBrackets_of_blocks found⟩

/-- An escaped quote makes the block a part of the text in front of it. -/
theorem textBeforeBrackets_escaped_quote :
    bracketBlocks "\"a\\\"b\" [x]" = .ok ["x"] ∧
      "\"a\\\"b\" [x]".toList = "\"a\\\"b\" ".toList ++ '[' :: ("x".toList ++ ']' :: []) ∧
      OutsideQuotes "\"a\\\"b\" ".toList [' '] ∧
      textBeforeBrackets "\"a\\\"b\" [x]" = "\"a\\\"b\" [x]" ∧
      textBeforeBrackets "\"a\\\"b\" [x]" ≠ ofList (trim "\"a\\\"b\" ".toList) := by
  have quotable : Quotable '"' ['a', '\\', '"', 'b'] :=
    .plain (by decide) (by decide) (.escaped (.plain (by decide) (by decide) .nil))
  exact ⟨by decide, by decide, .quoted (by decide) quotable (.plain (by decide) .nil),
    by decide, by decide⟩

end LogPipe.Query
