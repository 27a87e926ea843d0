import LogPipe.Proofs.Except
import LogPipe.Proofs.Query.Tiling

/-!
# Tokens one by one

What the lexer does at a blank, at a quote, at a sign of comparison and at a word.  What it
reads depends on the place only for the offsets.
-/

namespace LogPipe.Query

open LogPipe.Text String

variable {whole : String} {brackets : List (Char × Nat)} {offset : Nat} {text : List Char}

/-- A character that starts a word: a part of one that is no sign. -/
def StartsWord (c : Char) : Prop :=
  isWordPart c = true ∧ c ≠ '-' ∧ c ≠ '+' ∧ c ≠ '%'

/-- A text that is read as one word. -/
def IsWord : List Char → Prop
  | [] => False
  | c :: rest => StartsWord c ∧ ∀ d ∈ rest, isWordPart d = true

instance : DecidablePred StartsWord :=
  fun _ => inferInstanceAs (Decidable (_ ∧ _))

instance : DecidablePred IsWord
  | [] => .isFalse id
  | c :: rest =>
      decidable_of_iff (StartsWord c ∧ rest.all isWordPart = true) (by
        rw [List.all_eq_true]
        rfl)

theorem isBlank_of_isWordPart {c : Char} (part : isWordPart c = true) : isBlank c = false := by
  simp only [isWordPart, Bool.not_eq_true', Bool.or_eq_false_iff] at part
  simp [part]

theorem isWordPart_of_isBlank {c : Char} (blank : isBlank c = true) : isWordPart c = false := by
  simp [isWordPart, blank]

theorem IsWord.parts {word : List Char} (isWord : IsWord word) :
    ∀ c ∈ word, isWordPart c = true := by
  cases word with
  | nil => cases isWord
  | cons c rest => exact List.forall_mem_cons.mpr ⟨isWord.1.1, isWord.2⟩

theorem IsWord.tight {word : List Char} (isWord : IsWord word) : Tight word :=
  tight_of_solid fun c member => isBlank_of_isWordPart (isWord.parts c member)

/-- The token of a word. -/
def wordToken (word : List Char) (offset : Nat) : Token :=
  ⟨if looksNumeric word then .number else .identifier, ofList word, offset⟩

/-- Blanks are passed over. -/
theorem lexFrom_blank_append {gap : List Char} (blank : BlankRun gap) :
    lexFrom whole brackets offset (gap ++ text) =
      lexFrom whole brackets (offset + utf8Len gap) text := by
  induction gap generalizing offset with
  | nil => rfl
  | cons c gap induction =>
      have headBlank : isBlank c = true := blank c List.mem_cons_self
      have restBlank : BlankRun gap := fun d member => blank d (List.mem_cons_of_mem c member)
      rw [List.cons_append, lexFrom.eq_def]
      simp only [headBlank, if_true, induction restBlank, utf8Len_cons]
      congr 1
      omega

theorem lexFrom_quoted {quote : Char} {inside : List Char} (isOpening : isQuote quote = true)
    (quotable : Quotable quote inside) :
    lexFrom whole brackets offset (quote :: (inside ++ quote :: text)) = (do
      let token : Token := ⟨.quotedLiteral, ofList (quote :: (inside ++ [quote])), offset⟩
      let tokens ← lexFrom whole brackets token.stop text
      pure (token :: tokens)) := by
  have solid : isBlank quote = false := isBlank_of_special (.inl isOpening)
  have found := splitQuoted_of_quotable (ne_slash_of_isQuote isOpening) quotable text
  rw [lexFrom.eq_def]
  simp only [solid, isOpening, Bool.false_eq_true, if_true, if_false]
  split
  · next none =>
      rw [found] at none
      cases none
  · next taken after some =>
      rw [found] at some
      cases some
      rfl

/-- A word runs up to the first character that is no part of one. -/
theorem lexFrom_word {word : List Char} (isWord : IsWord word)
    (ends : ∀ c ∈ text.head?, isWordPart c = false) :
    lexFrom whole brackets offset (word ++ text) = (do
      let token := wordToken word offset
      let tokens ← lexFrom whole brackets token.stop text
      pure (token :: tokens)) := by
  cases word with
  | nil => cases isWord
  | cons c rest =>
      obtain ⟨⟨part, notMinus, notPlus, notPercent⟩, parts⟩ := isWord
      have stops : text.takeWhile isWordPart = [] ∧ text.dropWhile isWordPart = text := by
        cases text with
        | nil => exact ⟨rfl, rfl⟩
        | cons d text => simp [ends d rfl]
      have taken : (rest ++ text).takeWhile isWordPart = rest := by
        rw [List.takeWhile_append_of_pos parts, stops.1, List.append_nil]
      have dropped : (rest ++ text).dropWhile isWordPart = text := by
        rw [List.dropWhile_append_of_pos parts, stops.2]
      simp only [isWordPart, Bool.not_eq_true', Bool.or_eq_false_iff] at part
      rw [List.cons_append, lexFrom.eq_def]
      simp [part, notMinus, notPlus, notPercent, taken, dropped, wordToken]

theorem lexFrom_equals (alone : text.head? ≠ some '=') :
    lexFrom whole brackets offset ('=' :: text) = (do
      let tokens ← lexFrom whole brackets (offset + 1) text
      pure (charToken .operator '=' offset :: tokens)) := by
  have solid : isBlank '=' = false := by decide
  have unquoted : isQuote '=' = false := by decide
  have starts : startsOperator '=' = true := by decide
  rw [lexFrom.eq_def]
  simp only [solid, unquoted, starts]
  cases text with
  | nil => rfl
  | cons c text =>
      have other : c ≠ '=' := fun same => alone (congrArg some same)
      simp [other]

/-- What a token is, wherever it stands. -/
def Token.look (token : Token) : TokenKind × String :=
  (token.kind, token.value)

/-- The tokens of a result without their offsets. -/
def looks (result : Except LexError (List Token)) : Option (List (TokenKind × String)) :=
  result.toOption.map (·.map Token.look)

theorem looks_bind (result : Except LexError (List Token)) (token : Token) :
    looks (do
      let tokens ← result
      pure (token :: tokens)) = (looks result).map (token.look :: ·) := by
  cases result <;> rfl

/-- Neither the text that errors quote nor any offset shows in the tokens that are read. -/
theorem looks_lexFrom (other : String) (others : List (Char × Nat)) (place : Nat)
    (same : others.map Prod.fst = brackets.map Prod.fst) :
    looks (lexFrom other others place text) = looks (lexFrom whole brackets offset text) := by
  fun_induction lexFrom whole brackets offset text generalizing others place with
  | case1 offset =>
      obtain rfl := List.map_eq_nil_iff.mp same
      rw [lexFrom.eq_def]
  | case2 offset opener start outer =>
      obtain ⟨opened, rest, rfl, -, -⟩ := List.map_eq_cons_iff.mp same
      rw [lexFrom.eq_def]
      rfl
  | case3 brackets offset c rest blank induction =>
      rw [lexFrom.eq_def]
      simp only [blank, if_true]
      exact induction _ _ same
  | case4 brackets offset c rest notBlank quotes split =>
      rw [lexFrom.eq_def]
      simp only [notBlank, quotes, Bool.false_eq_true, if_true, if_false]
      split
      · rfl
      · next found =>
          rw [split] at found
          cases found
  | case5 brackets offset c rest notBlank quotes taken after split token induction =>
      rw [lexFrom.eq_def]
      simp only [notBlank, quotes, Bool.false_eq_true, if_true, if_false]
      split
      · next found =>
          rw [split] at found
          cases found
      · next found =>
          rw [split] at found
          cases found
          rw [looks_bind, looks_bind, induction _ _ same]
          rfl
  | case6 brackets offset c rest notBlank notQuote opens induction =>
      rw [lexFrom.eq_def]
      simp only [notBlank, notQuote, opens, Bool.false_eq_true, if_true, if_false]
      rw [looks_bind, looks_bind, induction _ _ (by rw [List.map_cons, List.map_cons, same])]
      rfl
  | case7 offset c rest notBlank notQuote notOpener closes opener start outer fits induction =>
      obtain ⟨⟨_, _⟩, rest', rfl, rfl, restSame⟩ := List.map_eq_cons_iff.mp same
      rw [lexFrom.eq_def]
      simp only [notBlank, notQuote, notOpener, closes, fits, Bool.false_eq_true, if_true, if_false]
      rw [looks_bind, looks_bind, induction _ _ restSame]
      rfl
  | case8 offset c rest notBlank notQuote notOpener closes opener start outer differs =>
      obtain ⟨⟨_, _⟩, rest', rfl, rfl, restSame⟩ := List.map_eq_cons_iff.mp same
      rw [lexFrom.eq_def]
      simp only [notBlank, notQuote, notOpener, closes, differs, Bool.false_eq_true, if_true,
        if_false]
      rfl
  | case9 offset c rest notBlank notQuote notOpener closes =>
      obtain rfl := List.map_eq_nil_iff.mp same
      rw [lexFrom.eq_def]
      simp only [notBlank, notQuote, notOpener, closes, Bool.false_eq_true, if_true, if_false]
      rfl
  | case10 brackets offset c rest notBlank notQuote notOpener notCloser comma induction =>
      rw [lexFrom.eq_def]
      simp only [notBlank, notQuote, notOpener, notCloser, comma, Bool.false_eq_true, if_true,
        if_false]
      rw [looks_bind, looks_bind, induction _ _ same]
      rfl
  | case11 brackets offset c notBlank notQuote notOpener notCloser notComma starts after
      induction =>
      rw [lexFrom.eq_def]
      simp only [notBlank, notQuote, notOpener, notCloser, notComma, starts, Bool.false_eq_true,
        if_true, if_false]
      rw [looks_bind, looks_bind, induction _ _ same]
      rfl
  | case12 brackets offset c notBlank notQuote notOpener notCloser notComma starts after alone
      induction =>
      rw [lexFrom.eq_def]
      simp only [notBlank, notQuote, notOpener, notCloser, notComma, starts, Bool.false_eq_true,
        if_true, if_false]
      rw [looks_bind, looks_bind, induction _ _ same]
      rfl
  | case13 brackets offset c rest notBlank notQuote notOpener notCloser notComma notOperator
      sign induction =>
      rw [lexFrom.eq_def]
      simp only [notBlank, notQuote, notOpener, notCloser, notComma, notOperator, sign,
        Bool.false_eq_true, if_true, if_false]
      rw [looks_bind, looks_bind, induction _ _ same]
      rfl
  | case14 brackets offset c rest notBlank notQuote notOpener notCloser notComma notOperator
      notSign word kind token induction =>
      rw [lexFrom.eq_def]
      simp only [notBlank, notQuote, notOpener, notCloser, notComma, notOperator, notSign,
        Bool.false_eq_true, if_false]
      rw [looks_bind, looks_bind, induction _ _ same]
      rfl

/-- A token that stands further right. -/
def Token.shift (count : Nat) (token : Token) : Token :=
  { token with offset := token.offset + count }

section Positions

variable {openers others text : List Char} {offset place : Nat} {tokens later : List Token}

theorem Lexeme.exists_solid_head {kind : TokenKind} {value inner : List Char}
    (lexeme : Lexeme kind value openers inner) :
    ∃ c rest, value = c :: rest ∧ isBlank c = false := by
  obtain ⟨c, rest, rfl⟩ := List.exists_cons_of_ne_nil lexeme.value_ne_nil
  refine ⟨c, rest, rfl, ?_⟩
  cases blank : isBlank c with
  | false => rfl
  | true =>
      -- Only quoted text holds blanks, but it does not start with one.
      obtain rfl := lexeme.kind_of_isBlank List.mem_cons_self blank
      obtain ⟨quote, inside, isOpening, shape⟩ := lexeme.exists_quote_of_quotedLiteral
      obtain ⟨rfl, -⟩ := List.cons_eq_cons.mp shape
      rw [isBlank_of_special (.inl isOpening)] at blank
      cases blank

/-- Only punctuation opens and closes brackets. -/
theorem Lexeme.inner_eq {kind : TokenKind} {value inner : List Char}
    (lexeme : Lexeme kind value openers inner) (plain : kind ≠ .punctuation) :
    inner = openers := by
  cases lexeme with
  | opener | closer => exact absurd rfl plain
  | comma | quoted | operator | compound | word => rfl

theorem Tiled.of_nil (tiled : Tiled openers offset [] tokens) : tokens = [] := by
  generalize nothing : ([] : List Char) = text at tiled
  cases tiled with
  | done => rfl
  | blank _ _ => cases nothing
  | token lexeme _ =>
      exact absurd (List.append_eq_nil_iff.mp nothing.symm).1 lexeme.value_ne_nil

/-- No token starts with a blank. -/
theorem Tiled.of_blank {c : Char} (isBlank : isBlank c = true)
    (tiled : Tiled openers offset (c :: text) tokens) :
    Tiled openers (offset + c.utf8Size) text tokens := by
  generalize whole : c :: text = line at tiled
  cases tiled with
  | done => cases whole
  | blank _ rest =>
      obtain ⟨rfl, rfl⟩ := List.cons_eq_cons.mp whole
      exact rest
  | token lexeme _ =>
      obtain ⟨d, rest, rfl, solid⟩ := lexeme.exists_solid_head
      obtain ⟨rfl, -⟩ := List.cons_eq_cons.mp whole
      rw [isBlank] at solid
      cases solid

/-- Where a token starts, the tokens that cover the text begin with one. -/
theorem Tiled.exists_token {c : Char} (solid : isBlank c = false)
    (tiled : Tiled openers offset (c :: text) tokens) :
    ∃ kind value inner after rest, c :: text = value ++ after ∧
      tokens = ⟨kind, ofList value, offset⟩ :: rest ∧
      Tiled inner (offset + utf8Len value) after rest := by
  generalize whole : c :: text = line at tiled
  cases tiled with
  | done => cases whole
  | blank isBlank _ =>
      obtain ⟨rfl, -⟩ := List.cons_eq_cons.mp whole
      rw [isBlank] at solid
      cases solid
  | token _ rest => exact ⟨_, _, _, _, _, rfl, rfl, rest⟩

/-- Tokens that look the same and cover the same text differ by a shift. -/
theorem Tiled.eq_map_shift (tiled : Tiled openers offset text tokens)
    (laterTiled : Tiled others (offset + place) text later)
    (same : later.map Token.look = tokens.map Token.look) :
    later = tokens.map (Token.shift place) := by
  induction tiled generalizing others later with
  | done =>
      rw [laterTiled.of_nil]
      rfl
  | @blank openers text offset c tokens blank _ induction =>
      have rest := laterTiled.of_blank blank
      rw [Nat.add_right_comm] at rest
      exact induction rest same
  | @token openers inner value text offset kind tokens lexeme _ induction =>
      obtain ⟨c, rest, rfl, solid⟩ := lexeme.exists_solid_head
      obtain ⟨kind', value', inner', after, more, split, rfl, moreTiled⟩ :=
        laterTiled.exists_token solid
      obtain ⟨look, moreSame⟩ := List.cons_eq_cons.mp same
      obtain ⟨rfl, sameValue⟩ := Prod.mk.injEq .. ▸ look
      obtain rfl := ofList_injective sameValue
      obtain rfl : text = after := @List.append_cancel_left _ (c :: rest) _ _ split
      rw [Nat.add_right_comm] at moreTiled
      rw [List.map_cons, induction moreTiled moreSame]
      rfl

end Positions

theorem dropBytes_utf8Len_append (front rest : List Char) :
    dropBytes (utf8Len front) (front ++ rest) = rest := by
  induction front with
  | nil => cases rest <;> rfl
  | cons c front induction =>
      have positive : 0 < c.utf8Size := c.utf8Size_pos
      have some : (utf8Len front + c.utf8Size == 0) = false := by
        rw [beq_eq_false_iff_ne]
        omega
      rw [utf8Len_cons, List.cons_append, dropBytes, some]
      simp [induction]

section Restarting

variable {whole : String} {brackets : List (Char × Nat)} {offset : Nat} {text : List Char}
  {first : Token} {tokens : List Token}

/-- The rest of a text behind its first token, and the brackets that are open there. -/
structure Behind (brackets : List (Char × Nat)) (offset : Nat) (text : List Char) (first : Token)
    (inner : List (Char × Nat)) (after : List Char) : Prop where
  split : ∃ gap, BlankRun gap ∧ text = gap ++ (first.value.toList ++ after) ∧
    first.offset = offset + utf8Len gap
  lexeme : Lexeme first.kind first.value.toList (brackets.map Prod.fst) (inner.map Prod.fst)

theorem stop_charToken {kind : TokenKind} {c : Char} (narrow : c.utf8Size = 1) :
    (charToken kind c offset).stop = offset + 1 := by
  simp [Token.stop, charToken, narrow]

theorem eq_ok_cons {result : Except LexError (List Token)} {token : Token}
    (read : (do
      let tokens ← result
      pure (token :: tokens)) = .ok (first :: tokens)) :
    token = first ∧ result = .ok tokens := by
  obtain ⟨rest, restRead, same⟩ := Except.bind_eq_ok_iff.mp read
  cases same
  exact ⟨rfl, restRead⟩

namespace Behind

variable {inner : List (Char × Nat)} {after : List Char}

theorem blank {c : Char} (isBlank : isBlank c = true)
    (behind : Behind brackets (offset + c.utf8Size) text first inner after) :
    Behind brackets offset (c :: text) first inner after := by
  obtain ⟨gap, gapBlank, rfl, place⟩ := behind.split
  refine ⟨⟨c :: gap, List.forall_mem_cons.mpr ⟨isBlank, gapBlank⟩, rfl, ?_⟩, behind.lexeme⟩
  rw [place, utf8Len_cons]
  omega

theorem token {kind : TokenKind} {value : List Char}
    (lexeme : Lexeme kind value (brackets.map Prod.fst) (inner.map Prod.fst)) :
    Behind brackets offset (value ++ after) ⟨kind, ofList value, offset⟩ inner after :=
  ⟨⟨[], blankRun_nil, by simp, rfl⟩, by simpa using lexeme⟩

/-- A token of one character. -/
theorem char {kind : TokenKind} {c : Char}
    (lexeme : Lexeme kind [c] (brackets.map Prod.fst) (inner.map Prod.fst)) :
    Behind brackets offset (c :: after) (charToken kind c offset) inner after := by
  rw [charToken, String.singleton_eq_ofList]
  exact token lexeme

end Behind

/-- Behind its first token a text is read on, whatever has been read before. -/
theorem exists_lexFrom_behind (read : lexFrom whole brackets offset text = .ok (first :: tokens)) :
    ∃ inner after, Behind brackets offset text first inner after ∧
      lexFrom whole inner first.stop after = .ok tokens := by
  fun_induction lexFrom whole brackets offset text with
  | case1 | case2 | case4 | case8 | case9 => cases read
  | case3 brackets offset c rest blank induction =>
      obtain ⟨inner, after, behind, rest⟩ := induction read
      exact ⟨inner, after, behind.blank blank, rest⟩
  | case5 brackets offset c rest notBlank quotes taken after split token induction =>
      obtain ⟨rfl, restRead⟩ := eq_ok_cons read
      obtain ⟨inside, quotable, rfl, rfl⟩ := quotable_of_splitQuoted split
      exact ⟨brackets, after, Behind.token (.quoted quotes quotable), restRead⟩
  | case6 brackets offset c rest notBlank notQuote opens induction =>
      obtain ⟨rfl, restRead⟩ := eq_ok_cons read
      have narrow : c.utf8Size = 1 :=
        utf8Size_of_isBracket (by simp [isBracket, isOpener, opens])
      exact ⟨(c, offset) :: brackets, rest, .char (.opener opens),
        by rwa [stop_charToken narrow]⟩
  | case7 offset c rest notBlank notQuote notOpener closes opener start outer fits induction =>
      obtain ⟨rfl, restRead⟩ := eq_ok_cons read
      obtain rfl := eq_of_beq fits
      have narrow : (closerOf opener).utf8Size = 1 :=
        utf8Size_of_isBracket (by simp [isBracket, isCloser_closerOf])
      exact ⟨outer, rest, .char .closer, by rwa [stop_charToken narrow]⟩
  | case10 brackets offset c rest notBlank notQuote notOpener notCloser comma induction =>
      obtain ⟨rfl, restRead⟩ := eq_ok_cons read
      obtain rfl := eq_of_beq comma
      exact ⟨brackets, rest, .char .comma, by rwa [stop_charToken (by decide)]⟩
  | case11 brackets offset c notBlank notQuote notOpener notCloser notComma starts after
      induction =>
      obtain ⟨rfl, restRead⟩ := eq_ok_cons read
      refine ⟨brackets, after, Behind.token (.compound starts), ?_⟩
      rwa [Token.stop, utf8ByteSize_ofList, utf8Len_compound starts]
  | case12 brackets offset c notBlank notQuote notOpener notCloser notComma starts after alone
      induction =>
      obtain ⟨rfl, restRead⟩ := eq_ok_cons read
      exact ⟨brackets, after, .char (.operator (.inl starts)),
        by rwa [stop_charToken (utf8Size_of_startsOperator starts)]⟩
  | case13 brackets offset c rest notBlank notQuote notOpener notCloser notComma notOperator
      sign induction =>
      obtain ⟨rfl, restRead⟩ := eq_ok_cons read
      simp only [Bool.or_eq_true, beq_iff_eq, or_assoc] at sign
      exact ⟨brackets, rest, .char (.operator (.inr sign)),
        by rwa [stop_charToken (utf8Size_of_sign sign)]⟩
  | case14 brackets offset c rest notBlank notQuote notOpener notCloser notComma notOperator
      notSign word kind token induction =>
      obtain ⟨rfl, restRead⟩ := eq_ok_cons read
      have lexeme : Lexeme kind word (brackets.map Prod.fst) (brackets.map Prod.fst) :=
        lexeme_of_word
          (isWordPart_of_other notBlank notQuote notOpener notCloser notComma notOperator) rest
      have split : c :: rest = word ++ rest.dropWhile isWordPart := by
        rw [List.cons_append, List.takeWhile_append_dropWhile]
      rw [split]
      exact ⟨brackets, _, Behind.token lexeme, restRead⟩

/-- Where no bracket is open, the rest of a text is read as a text of its own. -/
theorem exists_lex_of_lexFrom (read : lexFrom whole [] offset text = .ok tokens) :
    ∃ others, lex (ofList text) = .ok others ∧ tokens = others.map (Token.shift offset) := by
  have looksSame : looks (lex (ofList text)) = looks (lexFrom whole [] offset text) := by
    rw [lex, toList_ofList]
    exact looks_lexFrom _ _ _ rfl
  rw [read] at looksSame
  obtain ⟨others, othersRead, same⟩ := Option.map_eq_some_iff.mp looksSame
  have alone := Except.toOption_eq_some_iff.mp othersRead
  have tiled := lexFrom_reads whole [] offset text
  have aloneTiled := lex_reads (ofList text)
  rw [read] at tiled
  rw [alone, toList_ofList] at aloneTiled
  rw [← Nat.zero_add offset] at tiled
  exact ⟨others, alone, aloneTiled.2.eq_map_shift tiled.2 same.symm⟩

end Restarting

end LogPipe.Query
