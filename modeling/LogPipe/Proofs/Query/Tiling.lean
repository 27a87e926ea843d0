import LogPipe.Proofs.Query.Closed
import Mathlib.Data.String.Basic

/-!
# Tokens tile their text

The lexer reads exactly the closed texts.  Its tokens are slices of the text in the order in
which they stand there, and only blanks stand between them.

The proof goes through `Tiled`, which says how tokens cover the rest of a text in which some
brackets are still open.  Reading a token adds one lexeme to it, whatever the token is.
-/

namespace LogPipe.Query

open LogPipe.Text String

section Quotes

variable {quote : Char} {text taken after : List Char}

/-- The lexer finds the end of quoted text. -/
theorem splitQuoted_of_quotable (notSlash : quote ≠ '\\') {inside : List Char}
    (quotable : Quotable quote inside) (after : List Char) :
    splitQuoted quote (inside ++ quote :: after) = some (inside ++ [quote], after) := by
  induction quotable with
  | nil => cases after <;> simp [splitQuoted, notSlash]
  | @plain c rest notQuote plain quotable induction =>
      have other : (c == quote) = false := beq_eq_false_iff_ne.mpr notQuote
      rw [List.cons_append, splitQuoted]
      · simp [other, induction]
      · rintro rfl
        exact absurd rfl plain
      · intro d rest' isSlash
        exact absurd isSlash plain
  | @escaped c rest quotable induction =>
      rw [List.cons_append, List.cons_append, splitQuoted, induction]
      rfl

theorem quotable_of_splitQuoted (split : splitQuoted quote text = some (taken, after)) :
    ∃ inside, Quotable quote inside ∧ taken = inside ++ [quote] ∧ text = taken ++ after := by
  fun_induction splitQuoted quote text generalizing taken after with
  | case1 => cases split
  | case2 => cases split
  | case3 c rest induction =>
      obtain ⟨⟨front, left⟩, found, same⟩ := Option.map_eq_some_iff.mp split
      obtain ⟨inside, quotable, rfl, rfl⟩ := induction found
      cases same
      exact ⟨'\\' :: c :: inside, .escaped quotable, rfl, by simp⟩
  | case4 c rest notLast notSlash closes =>
      cases split
      obtain rfl := eq_of_beq closes
      exact ⟨[], .nil, rfl, rfl⟩
  | case5 c rest notLast notSlash other induction =>
      obtain ⟨⟨front, left⟩, found, same⟩ := Option.map_eq_some_iff.mp split
      obtain ⟨inside, quotable, rfl, rfl⟩ := induction found
      cases same
      refine ⟨c :: inside, .plain (by simpa using other) ?_ quotable, rfl, by simp⟩
      rintro rfl
      cases rest' : inside ++ [quote] ++ after with
      | nil => simp at rest'
      | cons d later => exact notSlash d later rfl rest'

/-- A quote closes in one way only. -/
theorem quotable_append_inj (notSlash : quote ≠ '\\') {first second left right : List Char}
    (firstQuotable : Quotable quote first) (secondQuotable : Quotable quote second)
    (same : first ++ quote :: left = second ++ quote :: right) : left = right := by
  have found := splitQuoted_of_quotable notSlash firstQuotable left
  rw [same, splitQuoted_of_quotable notSlash secondQuotable right, Option.some.injEq,
    Prod.mk.injEq] at found
  exact found.2.symm

theorem ne_slash_of_isQuote (isOpening : isQuote quote = true) : quote ≠ '\\' := by
  rintro rfl
  cases isOpening

end Quotes

/-- The characters of a token of a kind, and what the token does to the open brackets. -/
inductive Lexeme : TokenKind → List Char → List Char → List Char → Prop where
  | opener {c : Char} {openers : List Char} :
      isOpener c = true → Lexeme .punctuation [c] openers (c :: openers)
  | closer {opener : Char} {openers : List Char} :
      Lexeme .punctuation [closerOf opener] (opener :: openers) openers
  | comma {openers : List Char} : Lexeme .punctuation [','] openers openers
  | quoted {quote : Char} {inside openers : List Char} :
      isQuote quote = true → Quotable quote inside →
      Lexeme .quotedLiteral (quote :: inside ++ [quote]) openers openers
  | operator {c : Char} {openers : List Char} :
      startsOperator c = true ∨ c = '-' ∨ c = '+' ∨ c = '%' →
      Lexeme .operator [c] openers openers
  | compound {c : Char} {openers : List Char} :
      startsOperator c = true → Lexeme .operator [c, '='] openers openers
  | word {kind : TokenKind} {c : Char} {rest openers : List Char} :
      kind = .identifier ∨ kind = .number → (∀ d ∈ c :: rest, isWordPart d = true) →
      Lexeme kind (c :: rest) openers openers

/-- Tokens that cover a text from an offset on, blanks apart, where some brackets are open. -/
inductive Tiled : List Char → Nat → List Char → List Token → Prop where
  | done {offset : Nat} : Tiled [] offset [] []
  | blank {openers text : List Char} {offset : Nat} {c : Char} {tokens : List Token} :
      isBlank c = true → Tiled openers (offset + c.utf8Size) text tokens →
      Tiled openers offset (c :: text) tokens
  | token {openers inner value text : List Char} {offset : Nat} {kind : TokenKind}
      {tokens : List Token} :
      Lexeme kind value openers inner → Tiled inner (offset + utf8Len value) text tokens →
      Tiled openers offset (value ++ text) (⟨kind, .ofList value, offset⟩ :: tokens)

namespace Lexeme

variable {kind : TokenKind} {value openers inner text : List Char}

theorem value_ne_nil (lexeme : Lexeme kind value openers inner) : value ≠ [] := by
  cases lexeme <;> simp

theorem isBlank_of_startsOperator {c : Char} (starts : startsOperator c = true) :
    isBlank c = false := by
  simp only [startsOperator, Bool.or_eq_true, beq_iff_eq] at starts
  rcases starts with ((rfl | rfl) | rfl) | rfl <;> decide

/-- Only quoted text holds blanks. -/
theorem kind_of_isBlank (lexeme : Lexeme kind value openers inner) {c : Char}
    (member : c ∈ value) (blank : isBlank c = true) : kind = .quotedLiteral := by
  have never : ∀ {chars : List Char}, (∀ d ∈ chars, isBlank d = false) → c ∈ chars →
      kind = .quotedLiteral := by
    intro chars solid inside
    rw [solid c inside] at blank
    cases blank
  cases lexeme with
  | quoted => rfl
  | opener isOpening =>
      apply never _ member
      rw [List.forall_mem_singleton]
      exact isBlank_of_special (.inr (by simp [isBracket, isOpening]))
  | @closer opener =>
      apply never _ member
      rw [List.forall_mem_singleton]
      exact isBlank_of_special (.inr (by simp [isBracket, isCloser_closerOf opener]))
  | comma => exact never (List.forall_mem_singleton.mpr (by decide)) member
  | operator starts =>
      apply never _ member
      rw [List.forall_mem_singleton]
      rcases starts with starts | rfl | rfl | rfl
      · exact isBlank_of_startsOperator starts
      · decide
      · decide
      · decide
  | compound starts =>
      apply never _ member
      rw [List.forall_mem_cons, List.forall_mem_singleton]
      exact ⟨isBlank_of_startsOperator starts, by decide⟩
  | word _ each =>
      have part := each c member
      simp [isWordPart, blank] at part

theorem exists_quote_of_quotedLiteral (lexeme : Lexeme .quotedLiteral value openers inner) :
    ∃ quote inside, isQuote quote = true ∧ value = quote :: inside ++ [quote] := by
  generalize isQuoted : TokenKind.quotedLiteral = kind at lexeme
  cases lexeme with
  | quoted isOpening quotable => exact ⟨_, _, isOpening, rfl⟩
  | word isWord => rcases isWord with rfl | rfl <;> cases isQuoted
  | _ => cases isQuoted

theorem plain_of_startsOperator {c : Char} (starts : startsOperator c = true) :
    isQuote c = false ∧ isBracket c = false := by
  simp only [startsOperator, Bool.or_eq_true, beq_iff_eq] at starts
  rcases starts with ((rfl | rfl) | rfl) | rfl <;> decide

theorem plain_of_isWordPart {c : Char} (part : isWordPart c = true) :
    isQuote c = false ∧ isBracket c = false := by
  simp only [isWordPart, Bool.not_eq_true', Bool.or_eq_false_iff] at part
  simp [isBracket, isOpener, isCloser, part]

/-- What a token leaves open decides whether a text is closed. -/
theorem closedFrom_iff (lexeme : Lexeme kind value openers inner) :
    ClosedFrom openers (value ++ text) ↔ ClosedFrom inner text := by
  have skip : ∀ {plain openers : List Char},
      (∀ c ∈ plain, isQuote c = false ∧ isBracket c = false) →
      (ClosedFrom openers (plain ++ text) ↔ ClosedFrom openers text) :=
    closedFrom_plain_append_iff
  cases lexeme with
  | opener isOpening => exact closedFrom_opener_iff isOpening
  | @closer opener =>
      rw [List.singleton_append, closedFrom_closer_iff (isCloser_closerOf opener)]
      constructor
      · rintro ⟨_, _, same, -, closed⟩
        cases same
        exact closed
      · intro closed
        exact ⟨opener, inner, rfl, rfl, closed⟩
  | comma => exact skip (List.forall_mem_singleton.mpr (by decide))
  | @quoted quote inside _ isOpening quotable =>
      have shape : quote :: inside ++ [quote] ++ text = quote :: (inside ++ quote :: text) := by
        simp
      rw [shape, closedFrom_quote_iff isOpening]
      constructor
      · rintro ⟨other, rest, same, otherQuotable, closed⟩
        rwa [quotable_append_inj (ne_slash_of_isQuote isOpening) quotable otherQuotable same]
      · intro closed
        exact ⟨inside, text, rfl, quotable, closed⟩
  | operator starts =>
      apply skip
      rw [List.forall_mem_singleton]
      rcases starts with starts | rfl | rfl | rfl
      · exact plain_of_startsOperator starts
      · decide
      · decide
      · decide
  | compound starts =>
      apply skip
      rw [List.forall_mem_cons, List.forall_mem_singleton]
      exact ⟨plain_of_startsOperator starts, by decide⟩
  | word _ each => exact skip fun d member => plain_of_isWordPart (each d member)

/-- The brackets of a token of a kind. -/
def brackets (kind : TokenKind) (value : List Char) : List Char :=
  if kind = .punctuation then value.filter isBracket else []

theorem closes_iff (lexeme : Lexeme kind value openers inner) {later : List Char} :
    Closes openers (brackets kind value ++ later) ↔ Closes inner later := by
  cases lexeme with
  | @opener c _ isOpening =>
      have own : brackets .punctuation [c] = [c] := by
        simp [brackets, isBracket, isOpening]
      rw [own]
      exact closes_opener_iff isOpening
  | @closer opener =>
      have own : brackets .punctuation [closerOf opener] = [closerOf opener] := by
        simp [brackets, isBracket, isCloser_closerOf opener]
      rw [own, List.singleton_append, closes_closer_iff (isCloser_closerOf opener)]
      constructor
      · rintro ⟨_, _, same, -, closes⟩
        cases same
        exact closes
      · intro closes
        exact ⟨opener, inner, rfl, rfl, closes⟩
  | comma => rfl
  | quoted => rfl
  | operator => rfl
  | compound => rfl
  | word isWord => rcases isWord with rfl | rfl <;> rfl

end Lexeme

/-- An error over a quote or a bracket of a text. -/
def LexError.Unclosed (whole : String) (error : LexError) : Prop :=
  ∃ offset delimiter,
    error = .unterminated whole offset delimiter ∨ error = .unbalanced whole offset delimiter

/-- A result of reading the rest of a text: tokens that cover a rest that is closed, or an
error for one that is not. -/
def Reads (whole : String) (openers : List Char) (offset : Nat) (text : List Char) :
    Except LexError (List Token) → Prop
  | .ok tokens => ClosedFrom openers text ∧ Tiled openers offset text tokens
  | .error error => ¬ClosedFrom openers text ∧ error.Unclosed whole

namespace Reads

variable {whole : String} {openers inner value text : List Char} {offset : Nat}
  {kind : TokenKind} {result : Except LexError (List Token)}

theorem blank {c : Char} (isBlank : isBlank c = true)
    (reads : Reads whole openers (offset + c.utf8Size) text result) :
    Reads whole openers offset (c :: text) result := by
  have plain := plain_of_isBlank isBlank
  have same : ClosedFrom openers (c :: text) ↔ ClosedFrom openers text :=
    closedFrom_plain_iff plain.1 plain.2
  cases result with
  | ok tokens => exact ⟨same.mpr reads.1, .blank isBlank reads.2⟩
  | error error => exact ⟨mt same.mp reads.1, reads.2⟩

theorem token (lexeme : Lexeme kind value openers inner)
    (reads : Reads whole inner (offset + utf8Len value) text result) :
    Reads whole openers offset (value ++ text) (do
      let tokens ← result
      pure (⟨kind, .ofList value, offset⟩ :: tokens)) := by
  have same : ClosedFrom openers (value ++ text) ↔ ClosedFrom inner text :=
    lexeme.closedFrom_iff
  cases result with
  | ok tokens => exact ⟨same.mpr reads.1, .token lexeme reads.2⟩
  | error error => exact ⟨mt same.mp reads.1, reads.2⟩

/-- A token of one character that takes one byte. -/
theorem char {c : Char} (narrow : c.utf8Size = 1) (lexeme : Lexeme kind [c] openers inner)
    (reads : Reads whole inner (offset + 1) text result) :
    Reads whole openers offset (c :: text) (do
      let tokens ← result
      pure (charToken kind c offset :: tokens)) := by
  have size : utf8Len [c] = 1 := by simp [narrow]
  have written : String.ofList [c] = String.singleton c := String.singleton_eq_ofList.symm
  rw [← size] at reads
  rw [charToken, ← written]
  exact token lexeme reads

end Reads

theorem utf8Size_of_isBracket {c : Char} (bracket : isBracket c = true) : c.utf8Size = 1 := by
  simp only [isBracket, isOpener, isCloser, Bool.or_eq_true, beq_iff_eq] at bracket
  rcases bracket with (rfl | rfl) | (rfl | rfl) <;> decide

theorem utf8Size_of_startsOperator {c : Char} (starts : startsOperator c = true) :
    c.utf8Size = 1 := by
  simp only [startsOperator, Bool.or_eq_true, beq_iff_eq] at starts
  rcases starts with ((rfl | rfl) | rfl) | rfl <;> decide

theorem utf8Len_compound {c : Char} (starts : startsOperator c = true) :
    utf8Len [c, '='] = 2 := by
  simp [utf8Size_of_startsOperator starts]
  decide

theorem utf8Size_of_sign {c : Char} (sign : c = '-' ∨ c = '+' ∨ c = '%') : c.utf8Size = 1 := by
  rcases sign with rfl | rfl | rfl <;> decide

/-- A character that is no token by itself and starts none is a part of a word. -/
theorem isWordPart_of_other {c : Char} (notBlank : ¬isBlank c = true)
    (notQuote : ¬isQuote c = true) (notOpener : ¬(c == '(' || c == '[') = true)
    (notCloser : ¬(c == ')' || c == ']') = true) (notComma : ¬(c == ',') = true)
    (notOperator : ¬startsOperator c = true) : isWordPart c = true := by
  simp_all [isWordPart]

/-- A word is read up to the first character that is no part of one. -/
theorem lexeme_of_word {c : Char} {openers : List Char} (part : isWordPart c = true)
    (rest : List Char) :
    Lexeme (if looksNumeric (c :: rest.takeWhile isWordPart) then .number else .identifier)
      (c :: rest.takeWhile isWordPart) openers openers := by
  refine .word ?_ (List.forall_mem_cons.mpr
    ⟨part, fun d member => List.all_eq_true.mp List.all_takeWhile d member⟩)
  split
  · exact .inr rfl
  · exact .inl rfl

/-- A closing bracket that does not fit the bracket open last keeps the text from closing. -/
theorem not_closedFrom_closer {c : Char} {openers text : List Char} (closes : isCloser c = true)
    (misfit : ∀ opener ∈ openers.head?, closerOf opener ≠ c) :
    ¬ClosedFrom openers (c :: text) := by
  intro closed
  obtain ⟨opener, outer, rfl, fits, -⟩ := (closedFrom_closer_iff closes).mp closed
  exact misfit opener rfl fits

/-- The lexer reads a rest of a text when it is closed, and then covers it. -/
theorem lexFrom_reads (whole : String) (brackets : List (Char × Nat)) (offset : Nat)
    (text : List Char) :
    Reads whole (brackets.map Prod.fst) offset text (lexFrom whole brackets offset text) := by
  fun_induction lexFrom whole brackets offset text with
  | case1 offset => exact ⟨closedFrom_nothing_iff.mpr rfl, .done⟩
  | case2 offset opener start outer =>
      refine ⟨fun closed => ?_, start, opener, .inr rfl⟩
      cases closedFrom_nothing_iff.mp closed
  | case3 brackets offset c rest blank induction => exact induction.blank blank
  | case4 brackets offset c rest notBlank quotes split =>
      refine ⟨fun closed => ?_, offset, c, .inl rfl⟩
      obtain ⟨inside, after, rfl, quotable, -⟩ := (closedFrom_quote_iff quotes).mp closed
      rw [splitQuoted_of_quotable (ne_slash_of_isQuote quotes) quotable] at split
      cases split
  | case5 brackets offset c rest notBlank quotes taken after split token induction =>
      obtain ⟨inside, quotable, rfl, rfl⟩ := quotable_of_splitQuoted split
      rw [← List.cons_append]
      apply Reads.token (.quoted quotes quotable)
      rw [← String.utf8ByteSize_ofList]
      exact induction
  | case6 brackets offset c rest notBlank notQuote opens induction =>
      exact Reads.char (utf8Size_of_isBracket (by simp [isBracket, isOpener, opens]))
        (.opener opens) induction
  | case7 offset c rest notBlank notQuote notOpener closes opener start outer fits induction =>
      obtain rfl := eq_of_beq fits
      exact Reads.char (utf8Size_of_isBracket (by simp [isBracket, isCloser_closerOf]))
        .closer induction
  | case8 offset c rest notBlank notQuote notOpener closes opener start outer differs =>
      refine ⟨not_closedFrom_closer closes ?_, offset, c, .inr rfl⟩
      rintro _ ⟨⟩ fits
      exact differs (beq_iff_eq.mpr fits)
  | case9 offset c rest notBlank notQuote notOpener closes =>
      exact ⟨not_closedFrom_closer closes (by rintro _ ⟨⟩), offset, c, .inr rfl⟩
  | case10 brackets offset c rest notBlank notQuote notOpener notCloser comma induction =>
      obtain rfl := eq_of_beq comma
      exact Reads.char (by decide) .comma induction
  | case11 brackets offset c notBlank notQuote notOpener notCloser notComma starts after
      induction =>
      exact Reads.token (.compound starts) (by rwa [utf8Len_compound starts])
  | case12 brackets offset c notBlank notQuote notOpener notCloser notComma starts after alone
      induction =>
      exact Reads.char (utf8Size_of_startsOperator starts) (.operator (.inl starts)) induction
  | case13 brackets offset c rest notBlank notQuote notOpener notCloser notComma notOperator
      sign induction =>
      simp only [Bool.or_eq_true, beq_iff_eq, or_assoc] at sign
      exact Reads.char (utf8Size_of_sign sign) (.operator (.inr sign)) induction
  | case14 brackets offset c rest notBlank notQuote notOpener notCloser notComma notOperator
      notSign word kind token induction =>
      have whole : c :: rest = word ++ rest.dropWhile isWordPart := by
        rw [List.cons_append, List.takeWhile_append_dropWhile]
      rw [whole]
      apply Reads.token (lexeme_of_word
        (isWordPart_of_other notBlank notQuote notOpener notCloser notComma notOperator) rest)
      rw [← String.utf8ByteSize_ofList]
      exact induction

/-- A part of a text that starts at a byte offset. -/
def SitsAt (text : List Char) (offset : Nat) (part : List Char) : Prop :=
  ∃ before after, text = before ++ part ++ after ∧ utf8Len before = offset

/-- The brackets among the punctuation tokens. -/
def bracketsOf (tokens : List Token) : List Char :=
  tokens.flatMap fun token => Lexeme.brackets token.kind token.value.toList

/-- Tokens that cover a text. -/
structure Tiles (text : List Char) (tokens : List Token) : Prop where
  nonempty : ∀ token ∈ tokens, token.value ≠ ""
  sits : ∀ token ∈ tokens, SitsAt text token.offset token.value.toList
  ordered : tokens.Pairwise fun first second => first.stop ≤ second.offset
  /-- A character outside all tokens is blank. -/
  covers : ∀ before c after, text = before ++ c :: after →
    (∀ token ∈ tokens, ¬(token.offset ≤ utf8Len before ∧ utf8Len before < token.stop)) →
    isBlank c = true
  blanks : ∀ token ∈ tokens, ∀ c ∈ token.value.toList, isBlank c = true →
    token.kind = .quotedLiteral
  quotes : ∀ token ∈ tokens, token.kind = .quotedLiteral →
    ∃ quote inside, isQuote quote = true ∧ token.value.toList = quote :: inside ++ [quote]
  nested : WellNested (bracketsOf tokens)

namespace Tiled

variable {openers text : List Char} {offset : Nat} {tokens : List Token}

theorem lexeme_of_mem (tiled : Tiled openers offset text tokens) {token : Token}
    (member : token ∈ tokens) :
    ∃ openers inner, Lexeme token.kind token.value.toList openers inner := by
  induction tiled with
  | done => cases member
  | blank _ _ induction => exact induction member
  | @token openers inner value text offset kind tokens lexeme _ induction =>
      rcases List.mem_cons.mp member with rfl | later
      · exact ⟨openers, inner, by simpa using lexeme⟩
      · exact induction later

theorem sits (tiled : Tiled openers offset text tokens) {token : Token}
    (member : token ∈ tokens) :
    ∃ before after, text = before ++ token.value.toList ++ after ∧
      token.offset = offset + utf8Len before := by
  induction tiled with
  | done => cases member
  | @blank openers text offset c tokens _ _ induction =>
      obtain ⟨before, after, rfl, place⟩ := induction member
      refine ⟨c :: before, after, rfl, ?_⟩
      rw [place, utf8Len_cons]
      omega
  | @token openers inner value text offset kind tokens _ _ induction =>
      rcases List.mem_cons.mp member with rfl | later
      · exact ⟨[], text, by simp, rfl⟩
      · obtain ⟨before, after, rfl, place⟩ := induction later
        refine ⟨value ++ before, after, by simp, ?_⟩
        rw [place, utf8Len_append]
        omega

theorem ordered (tiled : Tiled openers offset text tokens) :
    tokens.Pairwise fun first second => first.stop ≤ second.offset := by
  induction tiled with
  | done => exact .nil
  | blank _ _ induction => exact induction
  | @token openers inner value text offset kind tokens _ rest induction =>
      refine .cons (fun later member => ?_) induction
      obtain ⟨before, after, -, place⟩ := rest.sits member
      rw [place, Token.stop, String.utf8ByteSize_ofList]
      exact Nat.le_add_right _ _

/-- A character that is not blank lies in a token. -/
theorem exists_cover (tiled : Tiled openers offset text tokens) {before after : List Char}
    {c : Char} (split : text = before ++ c :: after) (solid : isBlank c = false) :
    ∃ token ∈ tokens, token.offset ≤ offset + utf8Len before ∧
      offset + utf8Len before < token.stop := by
  induction tiled generalizing before with
  | done => simp at split
  | @blank openers text offset d tokens blank _ induction =>
      cases before with
      | nil =>
          obtain ⟨rfl, -⟩ := List.cons_eq_cons.mp split
          rw [blank] at solid
          cases solid
      | cons first before =>
          obtain ⟨rfl, rfl⟩ := List.cons_eq_cons.mp split
          obtain ⟨token, member, above, below⟩ := induction rfl
          refine ⟨token, member, ?_⟩
          rw [utf8Len_cons]
          omega
  | @token openers inner value text offset kind tokens _ _ induction =>
      rcases List.append_eq_append_iff.mp split with ⟨middle, rfl, rest⟩ | ⟨middle, rfl, rest⟩
      · obtain ⟨token, member, above, below⟩ := induction rest
        refine ⟨token, List.mem_cons_of_mem _ member, ?_⟩
        rw [utf8Len_append]
        omega
      · cases middle with
        | nil =>
            obtain ⟨token, member, above, below⟩ := @induction [] rest.symm
            refine ⟨token, List.mem_cons_of_mem _ member, ?_⟩
            simpa using And.intro above below
        | cons first middle =>
            refine ⟨_, List.mem_cons_self, Nat.le_add_right _ _, ?_⟩
            have wide : 0 < first.utf8Size := Char.utf8Size_pos first
            change offset + utf8Len before < offset + (ofList (before ++ first :: middle)).utf8ByteSize
            rw [String.utf8ByteSize_ofList, utf8Len_append, utf8Len_cons]
            omega

theorem closes (tiled : Tiled openers offset text tokens) : Closes openers (bracketsOf tokens) := by
  induction tiled with
  | done => exact .nil
  | blank _ _ induction => exact induction
  | token lexeme _ induction =>
      rw [bracketsOf, List.flatMap_cons, String.toList_ofList]
      exact lexeme.closes_iff.mpr induction

theorem tiles (tiled : Tiled [] 0 text tokens) : Tiles text tokens where
  nonempty := by
    intro token member isEmpty
    obtain ⟨_, _, lexeme⟩ := tiled.lexeme_of_mem member
    exact lexeme.value_ne_nil (by rw [isEmpty]; rfl)
  sits := by
    intro token member
    obtain ⟨before, after, split, place⟩ := tiled.sits member
    exact ⟨before, after, split, by rw [place, Nat.zero_add]⟩
  ordered := tiled.ordered
  covers := by
    intro before c after split uncovered
    by_cases solid : isBlank c = false
    · obtain ⟨token, member, covers⟩ := tiled.exists_cover split solid
      rw [Nat.zero_add] at covers
      exact absurd covers (uncovered token member)
    · simpa using solid
  blanks := by
    intro token member c inside blank
    obtain ⟨_, _, lexeme⟩ := tiled.lexeme_of_mem member
    exact lexeme.kind_of_isBlank inside blank
  quotes := by
    intro token member isQuoted
    obtain ⟨_, _, lexeme⟩ := tiled.lexeme_of_mem member
    rw [isQuoted] at lexeme
    exact lexeme.exists_quote_of_quotedLiteral
  nested := tiled.closes

end Tiled

theorem lex_reads (text : String) : Reads text [] 0 text.toList (lex text) :=
  lexFrom_reads text [] 0 text.toList

/-- The lexer reads every closed text, and the tokens cover it; on every other text it fails
over a quote or a bracket. -/
theorem lex_tiles (text : String) :
    match lex text with
    | .ok tokens => Closed text.toList ∧ Tiles text.toList tokens
    | .error error => ¬Closed text.toList ∧ error.Unclosed text := by
  have reads := lex_reads text
  cases read : lex text with
  | ok tokens =>
      rw [read] at reads
      exact ⟨reads.1, reads.2.tiles⟩
  | error error =>
      rw [read] at reads
      exact reads

end LogPipe.Query
