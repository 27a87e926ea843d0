import LogPipe.Proofs.Except
import LogPipe.Proofs.Filter.Derivation

/-!
# What has a derivation is read

A reader goes on as long as the next token binds what it has read.  So a phrase is read up to
its end when nothing that follows binds it.  A token that may start an operand binds as a
keyword does: that a predicate may follow without a keyword rests on every predicate starting
with such a token, and on none of these tokens going on with the predicate in front of it.
-/

namespace LogPipe.Filter

open LogPipe.Query

/-- How strongly a token binds what stands in front of it. -/
def strength (token : Token) : Nat :=
  if token.isKeyword "IN" || (comparison? token).isSome then 3
  else if token.isKeyword "AND" || startsOperand token then 2
  else if token.isKeyword "OR" then 1
  else 0

section Strength

variable {token : Token}

theorem binds_nothing_of_strength (weak : strength token < 3) :
    token.isKeyword "IN" = false ∧ comparison? token = none := by
  rw [strength] at weak
  split at weak
  · omega
  · next free => simpa using free

theorem afterAnd_eq_none (weak : strength token < 2) (rest : List Token) :
    afterAnd token rest = none := by
  rw [strength] at weak
  split at weak
  · omega
  · split at weak
    · omega
    · next free =>
        simp only [Bool.or_eq_true, not_or] at free
        simp [afterAnd, free]

theorem afterOr_eq_none (weak : strength token < 1) (rest : List Token) :
    afterOr token rest = none := by
  rw [strength] at weak
  split at weak
  · omega
  · split at weak
    · omega
    · split at weak
      · omega
      · next free => simp [afterOr, free]

/-- A keyword compares nothing. -/
theorem comparison?_of_kind (kind : token.kind ≠ .operator) : comparison? token = none := by
  simp [comparison?, kind]

theorem strength_lt_of_startsOperand (starts : startsOperand token = true) :
    strength token < 3 := by
  have free : token.isKeyword "IN" = false ∧ comparison? token = none := by
    cases kind : token.kind with
    | quotedLiteral | number | punctuation =>
        simp [not_isKeyword_of_kind, comparison?_of_kind, kind]
    | identifier =>
        simp only [startsOperand, kind, isKeyword, Bool.not_eq_true',
          Bool.or_eq_false_iff] at starts
        exact ⟨starts.2, comparison?_of_kind (by simp [kind])⟩
    | operator =>
        simp only [startsOperand, kind, beq_iff_eq] at starts
        simp [not_isKeyword_of_kind, comparison?, kind, starts]
  simp [strength, free, starts]

theorem not_and_of_startsOperand (starts : startsOperand token = true) :
    token.isKeyword "AND" = false := by
  cases kind : token.kind with
  | quotedLiteral | number | punctuation | operator => simp [not_isKeyword_of_kind, kind]
  | identifier =>
      simp only [startsOperand, kind, isKeyword, Bool.not_eq_true', Bool.or_eq_false_iff] at starts
      exact starts.1.1

theorem strength_lt_of_and (word : token.isKeyword "AND" = true) : strength token < 3 := by
  have notIn : token.isKeyword "IN" = false := not_isKeyword_of_isKeyword (by decide) word
  have kind := kind_of_isKeyword word
  simp [strength, notIn, word, comparison?_of_kind, kind]

theorem strength_lt_of_or (word : token.isKeyword "OR" = true) : strength token < 2 := by
  have notIn : token.isKeyword "IN" = false := not_isKeyword_of_isKeyword (by decide) word
  have notAnd : token.isKeyword "AND" = false := not_isKeyword_of_isKeyword (by decide) word
  have kind := kind_of_isKeyword word
  simp [strength, notIn, notAnd, word, comparison?_of_kind, kind, startsOperand, isKeyword]

theorem strength_lt_of_closing (closing : token.isPunctuation ")" = true) :
    strength token < 1 := by
  simp only [Token.isPunctuation, Bool.and_eq_true, beq_iff_eq] at closing
  simp [strength, comparison?_of_kind, not_isKeyword_of_kind, startsOperand, closing]

end Strength

/-- Every phrase starts with a token that may start an operand. -/
theorem Phrase.exists_first {symbol : Symbol} {n : Nat} {tokens : List Token} {filter : Filter}
    (derived : Phrase symbol n tokens filter) :
    ∃ first later, tokens = first :: later ∧ startsOperand first = true := by
  induction derived with
  | conjunction _ induction | predicate _ induction | operand _ induction => exact induction
  | either _ _ _ induction | both _ _ _ induction | adjacent _ _ induction
  | compare _ _ _ induction | member _ _ _ _ _ induction =>
      obtain ⟨first, later, rfl, starts⟩ := induction
      exact ⟨first, _, rfl, starts⟩
  | atom derived =>
      obtain ⟨first, later, rfl, starts, -⟩ := derived.exists_first
      exact ⟨first, later, rfl, starts⟩
  | parentheses isOpening =>
      simp only [Token.isPunctuation, Bool.and_eq_true, beq_iff_eq] at isOpening
      exact ⟨_, _, rfl, by simp [startsOperand, isOpening]⟩

/-- What the readers of a level do with a phrase and the tokens after it. -/
def Recognized (limit : Nat) : Symbol → List Token → Filter → Prop
  | .operand, tokens, filter => ∀ rest,
      readPrimary limit (tokens ++ rest) = .ok (filter, rest)
  | .predicate, tokens, filter => ∀ rest, Stops strength 3 rest →
      readPredicate (readPrimary limit) (tokens ++ rest) = .ok (filter, rest)
  | .conjunction, tokens, filter => ∀ rest, Stops strength 3 rest →
      Resumes (readConjunction (readPrimary limit) (tokens ++ rest))
        (Chain.loop afterAnd (readPredicate (readPrimary limit)) filter rest) rest
  | .disjunction, tokens, filter => ∀ rest, Stops strength 2 rest →
      Resumes (readDisjunction (readPrimary limit) (tokens ++ rest))
        (Chain.loop afterOr (readConjunction (readPrimary limit)) filter rest) rest

namespace Recognized

variable {limit : Nat} {tokens left right rest : List Token} {filter first second : Filter}

theorem readConjunction (recognized : Recognized limit .conjunction tokens filter)
    (stops : Stops strength 2 rest) :
    readConjunction (readPrimary limit) (tokens ++ rest) = .ok (filter, rest) := by
  have resumes := recognized rest (stops.mono (by decide))
  exact Chain.eq_ok_of_resumes resumes fun token later split =>
    afterAnd_eq_none (stops token later split) later

theorem readDisjunction (recognized : Recognized limit .disjunction tokens filter)
    (stops : Stops strength 1 rest) :
    readDisjunction (readPrimary limit) (tokens ++ rest) = .ok (filter, rest) := by
  have resumes := recognized rest (stops.mono (by decide))
  exact Chain.eq_ok_of_resumes resumes fun token later split =>
    afterOr_eq_none (stops token later split) later

theorem conjunction (recognized : Recognized limit .conjunction tokens filter) :
    Recognized limit .disjunction tokens filter := by
  intro rest stops
  rw [readDisjunction_eq]
  exact Chain.resumes_part (recognized.readConjunction stops)

theorem predicate (recognized : Recognized limit .predicate tokens filter) :
    Recognized limit .conjunction tokens filter := by
  intro rest stops
  rw [readConjunction_eq]
  exact Chain.resumes_part (recognized rest stops)

theorem either {word : Token} (leftRecognized : Recognized limit .disjunction left first)
    (isWord : word.isKeyword "OR" = true)
    (rightRecognized : Recognized limit .conjunction right second) :
    Recognized limit .disjunction (left ++ word :: right) (.either first second) := by
  intro rest stops
  have resumes := leftRecognized (word :: (right ++ rest)) (stops_cons (strength_lt_of_or isWord))
  rw [List.append_assoc, List.cons_append]
  exact Chain.resumes_more resumes (by simp [afterOr, isWord])
    (rightRecognized.readConjunction stops) (by simp)

theorem both {word : Token} (leftRecognized : Recognized limit .conjunction left first)
    (isWord : word.isKeyword "AND" = true)
    (rightRecognized : Recognized limit .predicate right second) :
    Recognized limit .conjunction (left ++ word :: right) (.both first second) := by
  intro rest stops
  have resumes := leftRecognized (word :: (right ++ rest)) (stops_cons (strength_lt_of_and isWord))
  rw [List.append_assoc, List.cons_append]
  exact Chain.resumes_more resumes (by simp [afterAnd, isWord]) (rightRecognized rest stops)
    (by simp)

/-- A predicate that follows without a keyword is told by its first token. -/
theorem adjacent {token : Token} {later : List Token}
    (leftRecognized : Recognized limit .conjunction left first)
    (starts : startsOperand token = true)
    (rightRecognized : Recognized limit .predicate (token :: later) second) :
    Recognized limit .conjunction (left ++ token :: later) (.both first second) := by
  intro rest stops
  have resumes := leftRecognized (token :: (later ++ rest))
    (stops_cons (strength_lt_of_startsOperand starts))
  rw [List.append_assoc, List.cons_append]
  have found : afterAnd token (later ++ rest) = some (.both, token :: later ++ rest) := by
    simp [afterAnd, not_and_of_startsOperand starts, starts]
  exact Chain.resumes_more resumes found (rightRecognized rest stops) (by simp)

theorem operand (recognized : Recognized limit .operand tokens filter) :
    Recognized limit .predicate tokens filter := by
  intro rest stops
  rw [readPredicate, recognized rest]
  cases rest with
  | nil => rfl
  | cons token later =>
      obtain ⟨notIn, noSign⟩ := binds_nothing_of_strength (stops token later rfl)
      simp [notIn, noSign]

theorem compare {sign : Token} {operator : Comparison}
    (leftRecognized : Recognized limit .operand left first) (compares : Compares sign operator)
    (rightRecognized : Recognized limit .operand right second) :
    Recognized limit .predicate (left ++ sign :: right) (.compare operator first second) := by
  intro rest _
  have notIn : sign.isKeyword "IN" = false :=
    not_isKeyword_of_kind (by simp [kind_of_compares compares]) "IN"
  have found := comparison?_eq_some_iff.mpr compares
  rw [List.append_assoc, List.cons_append, readPredicate, leftRecognized]
  simp [notIn, found, rightRecognized rest]

theorem member {word opening closing : Token} {inside : List Token} {name : String}
    {values : List Cell} (recognized : Recognized limit .operand tokens (.column name))
    (isWord : word.isKeyword "IN" = true) (isOpening : opening.isPunctuation "(" = true)
    (literals : Literals inside values) (isClosing : closing.isPunctuation ")" = true) :
    Recognized limit .predicate (tokens ++ word :: opening :: (inside ++ [closing]))
      (.member name values) := by
  intro rest _
  have listRead : readList (opening :: (inside ++ closing :: rest)) = .ok (values, rest) :=
    readList_eq_ok_iff.mpr ⟨opening, inside, closing, rfl, isOpening, literals, isClosing⟩
  have tokensRead := recognized (word :: opening :: (inside ++ closing :: rest))
  simp only [List.append_assoc, List.cons_append, List.nil_append, readPredicate, tokensRead,
    isWord, if_true, listRead]

theorem atom (derived : Atom tokens filter) : Recognized limit .operand tokens filter := by
  intro rest
  have read : readOperand (tokens ++ rest) = .ok (filter, rest) :=
    readOperand_eq_ok_iff.mpr ⟨tokens, rfl, derived⟩
  obtain ⟨first, later, rfl, -, kind⟩ := derived.exists_first
  rw [List.cons_append] at read ⊢
  rw [readPrimary_single (by simp [Token.isPunctuation, kind]), read]

theorem parentheses {opening closing : Token} (isOpening : opening.isPunctuation "(" = true)
    (recognized : Recognized limit .disjunction tokens filter)
    (isClosing : closing.isPunctuation ")" = true) :
    Recognized (limit + 1) .operand (opening :: (tokens ++ [closing])) filter := by
  intro rest
  have stops : Stops strength 1 (closing :: rest) := stops_cons (strength_lt_of_closing isClosing)
  have inside := recognized.readDisjunction stops
  rw [List.cons_append, List.append_assoc, List.singleton_append,
    readPrimary_parentheses isOpening, inside]
  simp [isClosing]

end Recognized

/-- What has a derivation that is not nested too deeply is read. -/
theorem Phrase.recognized {symbol : Symbol} {n limit : Nat} {tokens : List Token}
    {filter : Filter} (derived : Phrase symbol n tokens filter) (low : n ≤ limit) :
    Recognized limit symbol tokens filter := by
  induction derived generalizing limit with
  | conjunction _ induction => exact (induction low).conjunction
  | predicate _ induction => exact (induction low).predicate
  | operand _ induction => exact (induction low).operand
  | either _ word _ left right =>
      obtain ⟨leftLow, rightLow⟩ := Nat.max_le.mp low
      exact (left leftLow).either word (right rightLow)
  | both _ word _ left right =>
      obtain ⟨leftLow, rightLow⟩ := Nat.max_le.mp low
      exact (left leftLow).both word (right rightLow)
  | adjacent _ second left right =>
      obtain ⟨leftLow, rightLow⟩ := Nat.max_le.mp low
      obtain ⟨token, later, rfl, starts⟩ := second.exists_first
      exact (left leftLow).adjacent starts (right rightLow)
  | compare _ compares _ left right =>
      obtain ⟨leftLow, rightLow⟩ := Nat.max_le.mp low
      exact (left leftLow).compare compares (right rightLow)
  | member _ word isOpening literals isClosing induction =>
      exact (induction low).member word isOpening literals isClosing
  | atom derived => exact .atom derived
  | parentheses isOpening _ isClosing induction =>
      obtain ⟨limit, rfl⟩ := Nat.exists_eq_add_one.mpr (Nat.lt_of_lt_of_le (Nat.succ_pos _) low)
      exact .parentheses isOpening (induction (Nat.le_of_succ_le_succ low)) isClosing

theorem ofTokens_eq_ok_iff {tokens : List Token} {filter : Filter} :
    ofTokens tokens = .ok filter ↔
      ∃ nesting ≤ maxNesting, Phrase .disjunction nesting tokens filter := by
  rw [ofTokens]
  constructor
  · intro read
    split at read
    · cases read
    · next found =>
        cases read
        obtain ⟨phrase, n, rfl, low, derived⟩ :=
          readDisjunction_front (readPrimary_front maxNesting) found
        exact ⟨n, low, by rwa [List.append_nil]⟩
    · cases read
  · rintro ⟨nesting, low, derived⟩
    have read := (derived.recognized low).readDisjunction stops_nil
    rw [List.append_nil] at read
    rw [read]

/-! ## Filters with fewer keywords

A conjunction is written with its keyword or without it.  So any of the keywords between the
predicates of a phrase may be left out, and the phrase stays one of the same filter. -/

/-- Two tokens that may stand at different places. -/
structure Alike (token other : Token) : Prop where
  kind : other.kind = token.kind
  value : other.value = token.value

/-- What is left of some tokens when any of the `AND` keywords among them are taken out.  Where
the others stand in the text does not matter. -/
inductive Thinned : List Token → List Token → Prop where
  | nil : Thinned [] []
  | keep {token other : Token} {tokens fewer : List Token} :
      Alike token other → Thinned tokens fewer → Thinned (token :: tokens) (other :: fewer)
  | drop {token : Token} {tokens fewer : List Token} :
      token.isKeyword "AND" = true → Thinned tokens fewer → Thinned (token :: tokens) fewer

namespace Alike

variable {token other : Token}

theorem isKeyword (alike : Alike token other) (word : String) :
    other.isKeyword word = token.isKeyword word := by
  simp [Token.isKeyword, alike.kind, alike.value]

theorem isPunctuation (alike : Alike token other) (mark : String) :
    other.isPunctuation mark = token.isPunctuation mark := by
  simp [Token.isPunctuation, alike.kind, alike.value]

theorem isOperator (alike : Alike token other) (operator : String) :
    other.isOperator operator = token.isOperator operator := by
  simp [Token.isOperator, alike.kind, alike.value]

theorem unquoted (alike : Alike token other) : other.unquoted = token.unquoted := by
  simp [Token.unquoted, alike.kind, alike.value]

theorem isReserved (alike : Alike token other) : IsReserved other ↔ IsReserved token := by
  simp [IsReserved, Filter.isKeyword, alike.isKeyword]

theorem compares (alike : Alike token other) {operator : Comparison}
    (compares : Compares token operator) : Compares other operator := by
  rw [← comparison?_eq_some_iff] at compares ⊢
  rw [← compares]
  simp [comparison?, alike.kind, alike.value]

end Alike

namespace Thinned

variable {token : Token} {tokens left right fewer : List Token}

theorem refl (tokens : List Token) : Thinned tokens tokens := by
  induction tokens with
  | nil => exact .nil
  | cons token tokens induction => exact .keep ⟨rfl, rfl⟩ induction

theorem prepend (thinned : Thinned right fewer) (left : List Token) :
    Thinned (left ++ right) (left ++ fewer) := by
  induction left with
  | nil => exact thinned
  | cons token left induction => exact .keep ⟨rfl, rfl⟩ induction

theorem cons (notAnd : token.isKeyword "AND" = false) (thinned : Thinned (token :: tokens) fewer) :
    ∃ other later, fewer = other :: later ∧ Alike token other ∧ Thinned tokens later := by
  cases thinned with
  | keep alike later => exact ⟨_, _, rfl, alike, later⟩
  | drop isAnd _ =>
      rw [notAnd] at isAnd
      cases isAnd

theorem append (thinned : Thinned (left ++ right) fewer) :
    ∃ front back, fewer = front ++ back ∧ Thinned left front ∧ Thinned right back := by
  induction left generalizing fewer with
  | nil => exact ⟨[], fewer, rfl, .nil, thinned⟩
  | cons token left induction =>
      cases thinned with
      | keep alike later =>
          obtain ⟨front, back, rfl, leftThinned, rightThinned⟩ := induction later
          exact ⟨_ :: front, back, rfl, .keep alike leftThinned, rightThinned⟩
      | drop isAnd later =>
          obtain ⟨front, back, rfl, leftThinned, rightThinned⟩ := induction later
          exact ⟨front, back, rfl, .drop isAnd leftThinned, rightThinned⟩

/-- A token that is no keyword stays between what is left of the tokens on both sides. -/
theorem append_cons (notAnd : token.isKeyword "AND" = false)
    (thinned : Thinned (left ++ token :: right) fewer) :
    ∃ front other back, fewer = front ++ other :: back ∧ Thinned left front ∧
      Alike token other ∧ Thinned right back := by
  obtain ⟨front, back, rfl, leftThinned, rightThinned⟩ := thinned.append
  obtain ⟨other, later, rfl, alike, laterThinned⟩ := rightThinned.cons notAnd
  exact ⟨front, other, later, rfl, leftThinned, alike, laterThinned⟩

theorem single (notAnd : token.isKeyword "AND" = false) (thinned : Thinned [token] fewer) :
    ∃ other, fewer = [other] ∧ Alike token other := by
  obtain ⟨other, later, rfl, alike, nothing⟩ := thinned.cons notAnd
  cases nothing
  exact ⟨other, rfl, alike⟩

end Thinned

/-- No keyword stands in a literal or a name. -/
theorem Atom.thinned {tokens fewer : List Token} {filter : Filter} (derived : Atom tokens filter)
    (thinned : Thinned tokens fewer) : Atom fewer filter := by
  cases derived with
  | text kind =>
      obtain ⟨other, rfl, alike⟩ := thinned.single (not_isKeyword_of_kind (by simp [kind]) "AND")
      rw [← alike.unquoted]
      exact .text (alike.kind.trans kind)
  | number kind =>
      obtain ⟨other, rfl, alike⟩ := thinned.single (not_isKeyword_of_kind (by simp [kind]) "AND")
      rw [← alike.value]
      exact .number (alike.kind.trans kind)
  | negative minus kind =>
      obtain ⟨sign, later, rfl, signAlike, rest⟩ :=
        thinned.cons (not_isKeyword_of_kind (by simp [kind_of_isOperator minus]) "AND")
      obtain ⟨other, rfl, alike⟩ := rest.single (not_isKeyword_of_kind (by simp [kind]) "AND")
      rw [← alike.value]
      exact .negative ((signAlike.isOperator "-").trans minus) (alike.kind.trans kind)
  | isTrue word =>
      obtain ⟨other, rfl, alike⟩ := thinned.single (not_isKeyword_of_isKeyword (by decide) word)
      exact .isTrue ((alike.isKeyword "true").trans word)
  | isFalse word =>
      obtain ⟨other, rfl, alike⟩ := thinned.single (not_isKeyword_of_isKeyword (by decide) word)
      exact .isFalse ((alike.isKeyword "false").trans word)
  | @name token kind free =>
      have notAnd : token.isKeyword "AND" = false := by
        simp only [IsReserved, Filter.isKeyword, not_or, Bool.or_eq_true, Bool.not_eq_true] at free
        exact free.1.1.1
      obtain ⟨other, rfl, alike⟩ := thinned.single notAnd
      rw [← alike.value]
      exact .name (alike.kind.trans kind) (mt alike.isReserved.mp free)

theorem Literals.thinned {tokens fewer : List Token} {values : List Cell}
    (literals : Literals tokens values) (thinned : Thinned tokens fewer) :
    Literals fewer values := by
  induction literals generalizing fewer with
  | last derived => exact .last (derived.thinned thinned)
  | more derived comma _ induction =>
      obtain ⟨front, other, back, rfl, item, alike, later⟩ :=
        thinned.append_cons (not_isKeyword_of_kind (by simp [kind_of_isPunctuation comma]) "AND")
      exact .more (derived.thinned item) ((alike.isPunctuation ",").trans comma) (induction later)

/-- Leaving out keywords keeps a phrase and its filter: a predicate that loses the keyword in
front of it stands next to the conjunction. -/
theorem Phrase.thinned {symbol : Symbol} {n : Nat} {tokens fewer : List Token} {filter : Filter}
    (derived : Phrase symbol n tokens filter) (thinned : Thinned tokens fewer) :
    Phrase symbol n fewer filter := by
  induction derived generalizing fewer with
  | conjunction _ induction => exact .conjunction (induction thinned)
  | predicate _ induction => exact .predicate (induction thinned)
  | operand _ induction => exact .operand (induction thinned)
  | either _ word _ left right =>
      obtain ⟨front, other, back, rfl, leftThinned, alike, rightThinned⟩ :=
        thinned.append_cons (not_isKeyword_of_isKeyword (by decide) word)
      exact (left leftThinned).either ((alike.isKeyword "OR").trans word) (right rightThinned)
  | both _ word _ left right =>
      obtain ⟨front, back, rfl, leftThinned, rest⟩ := thinned.append
      cases rest with
      | keep alike rightThinned =>
          exact (left leftThinned).both ((alike.isKeyword "AND").trans word) (right rightThinned)
      | drop _ rightThinned => exact (left leftThinned).adjacent (right rightThinned)
  | adjacent _ _ left right =>
      obtain ⟨front, back, rfl, leftThinned, rightThinned⟩ := thinned.append
      exact (left leftThinned).adjacent (right rightThinned)
  | compare _ compares _ left right =>
      obtain ⟨front, other, back, rfl, leftThinned, alike, rightThinned⟩ :=
        thinned.append_cons (not_isKeyword_of_kind (by simp [kind_of_compares compares]) "AND")
      exact (left leftThinned).compare (alike.compares compares) (right rightThinned)
  | member _ word isOpening literals isClosing induction =>
      obtain ⟨field, other, behind, rfl, fieldThinned, alike, rest⟩ :=
        thinned.append_cons (not_isKeyword_of_isKeyword (by decide) word)
      obtain ⟨opening, later, rfl, openingAlike, rest⟩ :=
        rest.cons (not_isKeyword_of_kind (by simp [kind_of_isPunctuation isOpening]) "AND")
      obtain ⟨inside, last, rfl, insideThinned, rest⟩ := rest.append
      obtain ⟨closing, rfl, closingAlike⟩ :=
        rest.single (not_isKeyword_of_kind (by simp [kind_of_isPunctuation isClosing]) "AND")
      exact (induction fieldThinned).member ((alike.isKeyword "IN").trans word)
        ((openingAlike.isPunctuation "(").trans isOpening) (literals.thinned insideThinned)
        ((closingAlike.isPunctuation ")").trans isClosing)
  | atom derived => exact .atom (derived.thinned thinned)
  | parentheses isOpening _ isClosing induction =>
      obtain ⟨opening, later, rfl, openingAlike, rest⟩ :=
        thinned.cons (not_isKeyword_of_kind (by simp [kind_of_isPunctuation isOpening]) "AND")
      obtain ⟨inside, last, rfl, insideThinned, rest⟩ := rest.append
      obtain ⟨closing, rfl, closingAlike⟩ :=
        rest.single (not_isKeyword_of_kind (by simp [kind_of_isPunctuation isClosing]) "AND")
      exact .parentheses ((openingAlike.isPunctuation "(").trans isOpening)
        (induction insideThinned) ((closingAlike.isPunctuation ")").trans isClosing)

theorem ofTokens_of_thinned {tokens fewer : List Token} {filter : Filter}
    (thinned : Thinned tokens fewer) (read : ofTokens tokens = .ok filter) :
    ofTokens fewer = .ok filter := by
  obtain ⟨nesting, low, derived⟩ := ofTokens_eq_ok_iff.mp read
  exact ofTokens_eq_ok_iff.mpr ⟨nesting, low, derived.thinned thinned⟩

/-- Tokens are read as a filter exactly when all of them are a disjunction of the grammar with
parentheses nested at most 128 deep, and they are read as the same filter when any of the `AND`
keywords are left out. -/
theorem ofTokens_reads_grammar (tokens : List Token) (filter : Filter) :
    (ofTokens tokens = .ok filter ↔
      ∃ nesting ≤ 128, Phrase .disjunction nesting tokens filter) ∧
    ∀ fewer, Thinned tokens fewer → ofTokens tokens = .ok filter →
      ofTokens fewer = .ok filter :=
  ⟨ofTokens_eq_ok_iff, fun _ thinned read => ofTokens_of_thinned thinned read⟩

/-- A keyword between a list and a sign may be left out. -/
theorem ofTokens_reads_grammar_without_keyword :
    let list : List Token := [⟨.identifier, "a", 0⟩, ⟨.identifier, "in", 2⟩,
      ⟨.punctuation, "(", 5⟩, ⟨.number, "1", 6⟩, ⟨.punctuation, ")", 7⟩]
    let sum : List Token := [⟨.operator, "-", 13⟩, ⟨.number, "2", 14⟩, ⟨.operator, "<", 16⟩,
      ⟨.identifier, "b", 18⟩]
    let filter : Filter :=
      .both (.member "a" [.int 1]) (.compare .lt (.literal (.int (-2))) (.column "b"))
    ofTokens (list ++ ⟨.identifier, "and", 9⟩ :: sum) = .ok filter ∧
      ofTokens (list ++ sum) = .ok filter ∧
      ∃ nesting ≤ 128, Phrase .disjunction nesting (list ++ sum) filter := by
  intro list sum filter
  have read : ofTokens (list ++ ⟨.identifier, "and", 9⟩ :: sum) = .ok filter := by
    obtain ⟨_, done, rfl⟩ := Except.exists_ok_of_toOption
      (show (ofTokens (list ++ ⟨.identifier, "and", 9⟩ :: sum)).toOption.map id = some filter by
        decide +kernel)
    exact done
  have thinned : Thinned (list ++ ⟨.identifier, "and", 9⟩ :: sum) (list ++ sum) :=
    (Thinned.drop (by decide) (.refl sum)).prepend list
  have fewerRead := (ofTokens_reads_grammar _ filter).2 (list ++ sum) thinned read
  exact ⟨read, fewerRead, (ofTokens_reads_grammar _ filter).1.mp fewerRead⟩

end LogPipe.Filter
