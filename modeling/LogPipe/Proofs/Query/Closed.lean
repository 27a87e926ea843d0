import LogPipe.Query.Lexer
import LogPipe.Proofs.Text.Trimming
import Mathlib.Data.List.Induction

/-!
# Closed texts

A text is closed when each of its quotes closes and its brackets outside quotes are well
nested.  This module says so without a scan, and shows what a character at the front of a
text does to the brackets that are still open.  The lexer and the splitter both follow
these laws, so they refuse the same texts.
-/

namespace LogPipe.Query

open LogPipe.Text

/-- What may stand between two equal quotes: no such quote, unless a backslash keeps it from
closing. -/
inductive Quotable (quote : Char) : List Char → Prop where
  | nil : Quotable quote []
  | plain {c : Char} {rest : List Char} :
      c ≠ quote → c ≠ '\\' → Quotable quote rest → Quotable quote (c :: rest)
  | escaped {c : Char} {rest : List Char} :
      Quotable quote rest → Quotable quote ('\\' :: c :: rest)

/-- A text whose quotes close, and its characters outside quotes. -/
inductive OutsideQuotes : List Char → List Char → Prop where
  | nil : OutsideQuotes [] []
  | plain {c : Char} {text outside : List Char} :
      isQuote c = false → OutsideQuotes text outside →
      OutsideQuotes (c :: text) (c :: outside)
  | quoted {quote : Char} {inside text outside : List Char} :
      isQuote quote = true → Quotable quote inside → OutsideQuotes text outside →
      OutsideQuotes (quote :: inside ++ quote :: text) outside

/-- Whether a character opens a bracket. -/
def isOpener (c : Char) : Bool :=
  c == '(' || c == '['

/-- Whether a character closes a bracket. -/
def isCloser (c : Char) : Bool :=
  c == ')' || c == ']'

/-- Whether a character is a bracket. -/
def isBracket (c : Char) : Bool :=
  isOpener c || isCloser c

/-- Brackets each of which is closed by its own partner. -/
inductive WellNested : List Char → Prop where
  | nil : WellNested []
  | pair {opener : Char} {inner rest : List Char} :
      isOpener opener = true → WellNested inner → WellNested rest →
      WellNested (opener :: inner ++ closerOf opener :: rest)

/-- A text whose quotes close and whose brackets outside quotes are well nested. -/
def Closed (text : List Char) : Prop :=
  ∃ outside, OutsideQuotes text outside ∧ WellNested (outside.filter isBracket)

/-- Brackets that close the given ones, the innermost first, and are well nested besides. -/
def Closes : List Char → List Char → Prop
  | [], brackets => WellNested brackets
  | opener :: openers, brackets =>
      ∃ inner rest, brackets = inner ++ closerOf opener :: rest ∧ WellNested inner ∧
        Closes openers rest

/-- A text that closes the given brackets, the innermost first, and is closed besides. -/
def ClosedFrom (openers text : List Char) : Prop :=
  ∃ outside, OutsideQuotes text outside ∧ Closes openers (outside.filter isBracket)

theorem closedFrom_nil_iff {text : List Char} : ClosedFrom [] text ↔ Closed text :=
  Iff.rfl

theorem isOpener_eq_true_iff {c : Char} : isOpener c = true ↔ c = '(' ∨ c = '[' := by
  simp [isOpener]

theorem isCloser_eq_true_iff {c : Char} : isCloser c = true ↔ c = ')' ∨ c = ']' := by
  simp [isCloser]

theorem isCloser_closerOf (opener : Char) : isCloser (closerOf opener) = true := by
  unfold closerOf
  split <;> decide

theorem isOpener_of_isCloser {c : Char} (closer : isCloser c = true) : isOpener c = false := by
  rcases isCloser_eq_true_iff.mp closer with rfl | rfl <;> decide

/-- Well nested brackets start with an opening one. -/
theorem WellNested.not_closer {c : Char} {rest : List Char} (closer : isCloser c = true) :
    ¬WellNested (c :: rest) := by
  intro nested
  cases nested with
  | pair opener _ _ =>
      rw [isOpener_of_isCloser closer] at opener
      cases opener

theorem quotable_of_plain {quote : Char} {text : List Char}
    (plain : ∀ c ∈ text, c ≠ quote ∧ c ≠ '\\') : Quotable quote text := by
  induction text with
  | nil => exact .nil
  | cons c rest induction =>
      obtain ⟨⟨notQuote, notSlash⟩, restPlain⟩ := List.forall_mem_cons.mp plain
      exact .plain notQuote notSlash (induction restPlain)

section Brackets

variable {c : Char} {openers brackets : List Char}

theorem closes_opener_iff (opener : isOpener c = true) :
    Closes openers (c :: brackets) ↔ Closes (c :: openers) brackets := by
  have notOwnCloser : ∀ other, c ≠ closerOf other := by
    rintro other rfl
    rw [isOpener_of_isCloser (isCloser_closerOf other)] at opener
    cases opener
  cases openers with
  | nil =>
      constructor
      · intro nested
        cases nested with
        | pair _ inner rest => exact ⟨_, _, rfl, inner, rest⟩
      · rintro ⟨inner, rest, rfl, innerNested, restNested⟩
        exact .pair opener innerNested restNested
  | cons outermost openers =>
      constructor
      · rintro ⟨inner, rest, split, innerNested, restCloses⟩
        cases innerNested with
        | nil => exact absurd (List.head_eq_of_cons_eq split) (notOwnCloser outermost)
        | pair _ first second =>
            simp only [List.cons_append, List.append_assoc, List.cons.injEq] at split
            obtain ⟨rfl, rfl⟩ := split
            exact ⟨_, _, rfl, first, _, rest, rfl, second, restCloses⟩
      · rintro ⟨inner, _, rfl, innerNested, second, rest, rfl, secondNested, restCloses⟩
        refine ⟨_, rest, ?_, .pair opener innerNested secondNested, restCloses⟩
        simp

theorem closes_closer_iff (closer : isCloser c = true) :
    Closes openers (c :: brackets) ↔
      ∃ opener outer, openers = opener :: outer ∧ closerOf opener = c ∧
        Closes outer brackets := by
  cases openers with
  | nil =>
      constructor
      · intro nested
        exact absurd nested (WellNested.not_closer closer)
      · rintro ⟨opener, outer, isOpen, -⟩
        cases isOpen
  | cons opener openers =>
      constructor
      · rintro ⟨inner, rest, split, innerNested, restCloses⟩
        cases innerNested with
        | nil =>
            obtain ⟨rfl, rfl⟩ := List.cons_eq_cons.mp split
            exact ⟨opener, openers, rfl, rfl, restCloses⟩
        | pair isOpening _ _ =>
            have same := List.head_eq_of_cons_eq split
            rw [← same, isOpener_of_isCloser closer] at isOpening
            cases isOpening
      · rintro ⟨_, _, same, rfl, restCloses⟩
        obtain ⟨rfl, rfl⟩ := List.cons_eq_cons.mp same
        exact ⟨[], brackets, rfl, .nil, restCloses⟩

end Brackets

section Texts

variable {c : Char} {openers text : List Char}

theorem closedFrom_nothing_iff : ClosedFrom openers [] ↔ openers = [] := by
  constructor
  · rintro ⟨outside, out, closes⟩
    cases out
    cases openers with
    | nil => rfl
    | cons opener openers =>
        obtain ⟨inner, rest, split, -⟩ := closes
        cases inner <;> cases split
  · rintro rfl
    exact ⟨[], .nil, .nil⟩

theorem outsideQuotes_cons_iff {outside : List Char} (unquoted : isQuote c = false) :
    OutsideQuotes (c :: text) outside ↔
      ∃ rest, outside = c :: rest ∧ OutsideQuotes text rest := by
  constructor
  · intro out
    cases out with
    | plain _ rest => exact ⟨_, rfl, rest⟩
    | quoted isOpening _ _ =>
        rw [unquoted] at isOpening
        cases isOpening
  · rintro ⟨rest, rfl, out⟩
    exact .plain unquoted out

theorem closedFrom_cons_iff (unquoted : isQuote c = false) :
    ClosedFrom openers (c :: text) ↔
      ∃ outside, OutsideQuotes text outside ∧ Closes openers ((c :: outside).filter isBracket) := by
  constructor
  · rintro ⟨_, out, closes⟩
    obtain ⟨rest, rfl, restOut⟩ := (outsideQuotes_cons_iff unquoted).mp out
    exact ⟨rest, restOut, closes⟩
  · rintro ⟨outside, out, closes⟩
    exact ⟨c :: outside, .plain unquoted out, closes⟩

/-- Characters other than quotes and brackets do not matter. -/
theorem closedFrom_plain_iff (unquoted : isQuote c = false) (plain : isBracket c = false) :
    ClosedFrom openers (c :: text) ↔ ClosedFrom openers text := by
  rw [closedFrom_cons_iff unquoted, ClosedFrom]
  simp only [List.filter_cons, plain, Bool.false_eq_true, if_false]

theorem isQuote_of_isBracket (bracket : isBracket c = true) : isQuote c = false := by
  simp only [isBracket, Bool.or_eq_true, isOpener_eq_true_iff, isCloser_eq_true_iff] at bracket
  rcases bracket with (rfl | rfl) | (rfl | rfl) <;> decide

theorem closedFrom_opener_iff (opener : isOpener c = true) :
    ClosedFrom openers (c :: text) ↔ ClosedFrom (c :: openers) text := by
  have bracket : isBracket c = true := by simp [isBracket, opener]
  rw [closedFrom_cons_iff (isQuote_of_isBracket bracket), ClosedFrom]
  simp only [List.filter_cons, bracket, if_true, closes_opener_iff opener]

theorem closedFrom_closer_iff (closer : isCloser c = true) :
    ClosedFrom openers (c :: text) ↔
      ∃ opener outer, openers = opener :: outer ∧ closerOf opener = c ∧
        ClosedFrom outer text := by
  have bracket : isBracket c = true := by simp [isBracket, closer]
  rw [closedFrom_cons_iff (isQuote_of_isBracket bracket)]
  simp only [List.filter_cons, bracket, if_true, closes_closer_iff closer]
  constructor
  · rintro ⟨outside, out, opener, outer, rfl, fits, closes⟩
    exact ⟨opener, outer, rfl, fits, outside, out, closes⟩
  · rintro ⟨opener, outer, rfl, fits, outside, out, closes⟩
    exact ⟨outside, out, opener, outer, rfl, fits, closes⟩

/-- A quote has to close, and what stands in it does not matter. -/
theorem closedFrom_quote_iff (quote : isQuote c = true) :
    ClosedFrom openers (c :: text) ↔
      ∃ inside rest, text = inside ++ c :: rest ∧ Quotable c inside ∧
        ClosedFrom openers rest := by
  constructor
  · rintro ⟨outside, out, closes⟩
    generalize whole : c :: text = line at out
    cases out with
    | nil => cases whole
    | plain unquoted _ =>
        obtain ⟨rfl, rfl⟩ := List.cons_eq_cons.mp whole
        rw [quote] at unquoted
        cases unquoted
    | @quoted opening inside rest _ _ quotable out =>
        obtain ⟨rfl, rfl⟩ := List.cons_eq_cons.mp whole
        exact ⟨inside, rest, rfl, quotable, outside, out, closes⟩
  · rintro ⟨inside, rest, rfl, quotable, outside, out, closes⟩
    exact ⟨outside, .quoted quote quotable out, closes⟩

theorem closedFrom_plain_append_iff {plain : List Char}
    (each : ∀ c ∈ plain, isQuote c = false ∧ isBracket c = false) :
    ClosedFrom openers (plain ++ text) ↔ ClosedFrom openers text := by
  induction plain with
  | nil => exact Iff.rfl
  | cons c plain induction =>
      rw [List.forall_mem_cons] at each
      rw [List.cons_append, closedFrom_plain_iff each.1.1 each.1.2]
      exact induction each.2

end Texts

section Blanks

theorem isBlank_of_special {c : Char} (special : isQuote c = true ∨ isBracket c = true) :
    isBlank c = false := by
  simp only [isQuote, isBracket, isOpener, isCloser, Bool.or_eq_true, beq_iff_eq] at special
  rcases special with ((rfl | rfl) | rfl) | ((rfl | rfl) | (rfl | rfl)) <;> decide

/-- A blank is neither a quote nor a bracket. -/
theorem plain_of_isBlank {c : Char} (blank : isBlank c = true) :
    isQuote c = false ∧ isBracket c = false := by
  have notSpecial : ¬(isQuote c = true ∨ isBracket c = true) := by
    intro special
    rw [isBlank_of_special special] at blank
    cases blank
  simpa using notSpecial

/-- Blanks at the end of a text stand outside its quotes. -/
theorem OutsideQuotes.of_append_blank {line outside : List Char}
    (out : OutsideQuotes line outside) {text gap : List Char} (blank : BlankRun gap)
    (split : line = text ++ gap) :
    ∃ front, OutsideQuotes text front ∧ outside = front ++ gap := by
  induction out generalizing text gap with
  | nil =>
      obtain ⟨rfl, rfl⟩ := List.append_eq_nil_iff.mp split.symm
      exact ⟨[], .nil, rfl⟩
  | @plain c rest outside unquoted out induction =>
      cases text with
      | nil =>
          obtain rfl : c :: rest = gap := split
          obtain ⟨front, frontOut, rfl⟩ :=
            @induction [] rest (List.forall_mem_cons.mp blank).2 rfl
          cases frontOut
          exact ⟨[], .nil, rfl⟩
      | cons first text =>
          obtain ⟨rfl, rfl⟩ := List.cons_eq_cons.mp split
          obtain ⟨front, frontOut, rfl⟩ := induction blank rfl
          exact ⟨c :: front, .plain unquoted frontOut, rfl⟩
  | @quoted quote inside rest outside isOpening quotable out induction =>
      have cut : (quote :: inside ++ [quote]) ++ rest = text ++ gap := by
        rw [← split]
        simp
      rcases List.append_eq_append_iff.mp cut with ⟨middle, rfl, after⟩ | ⟨middle, ends, after⟩
      · obtain ⟨front, frontOut, rfl⟩ := induction blank after
        refine ⟨front, ?_, rfl⟩
        have kept := OutsideQuotes.quoted isOpening quotable frontOut
        simpa using kept
      · -- The quote is closed by a character that is not blank, so the blanks come after it.
        cases middle using List.reverseRecOn with
        | nil =>
            rw [List.append_nil] at ends
            rw [List.nil_append] at after
            obtain ⟨front, frontOut, rfl⟩ := @induction [] gap blank (by simp [after])
            cases frontOut
            refine ⟨[], ?_, rfl⟩
            have kept := OutsideQuotes.quoted isOpening quotable .nil
            rw [← ends]
            simpa using kept
        | append_singleton middle last =>
            rw [← List.append_assoc] at ends
            obtain ⟨-, same⟩ := List.append_inj' ends rfl
            obtain ⟨rfl, -⟩ := List.cons_eq_cons.mp same
            have lastBlank : isBlank quote = true := blank quote (by simp [after])
            rw [isBlank_of_special (.inl isOpening)] at lastBlank
            cases lastBlank

/-- Trimming a closed text leaves a closed one. -/
theorem closed_trim {text : List Char} (closed : Closed text) : Closed (trim text) := by
  obtain ⟨before, after, beforeBlank, afterBlank, split⟩ := exists_blanks_around_trim text
  rw [split, List.append_assoc, ← closedFrom_nil_iff,
    closedFrom_plain_append_iff fun c member => plain_of_isBlank (beforeBlank c member)] at closed
  obtain ⟨outside, out, nested⟩ := closed
  obtain ⟨front, frontOut, rfl⟩ := out.of_append_blank afterBlank rfl
  have noBrackets : after.filter isBracket = [] :=
    List.filter_eq_nil_iff.mpr fun c member => by
      rw [(plain_of_isBlank (afterBlank c member)).2]
      decide
  rw [List.filter_append, noBrackets, List.append_nil] at nested
  exact ⟨front, frontOut, nested⟩

end Blanks

end LogPipe.Query
