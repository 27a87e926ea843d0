import LogPipe.Filter.Reading

/-!
# The grammar of filters

    disjunction → conjunction | disjunction OR conjunction
    conjunction → predicate | conjunction AND? predicate
    predicate   → operand | operand ("=" | "==" | "!=" | "<" | "<=" | ">" | ">=") operand
                | operand IN "(" literals ")"
    operand     → atom | "(" disjunction ")"
    literals    → literal | literal "," literals
    literal     → TEXT | NUMBER | "-" NUMBER | TRUE | FALSE
    atom        → literal | NAME

What stands in front of `IN` has to be the name of a field, in parentheses or not.  A derivation
carries how deep its parentheses are nested.
-/

namespace LogPipe.Filter

open LogPipe.Query

/-- The nonterminals of the grammar whose phrases are filters. -/
inductive Symbol where
  | disjunction
  | conjunction
  | predicate
  | operand

/-- The words that are no names: they join or test predicates, or are truth values. -/
def IsReserved (token : Token) : Prop :=
  isKeyword token = true ∨ token.isKeyword "true" = true ∨ token.isKeyword "false" = true

/-- The literals and names. -/
inductive Atom : List Token → Filter → Prop where
  | text {token : Token} :
      token.kind = .quotedLiteral → Atom [token] (.literal (.text token.unquoted))
  | number {token : Token} :
      token.kind = .number → Atom [token] (.literal (Cell.infer token.value))
  | negative {sign token : Token} :
      sign.isOperator "-" = true → token.kind = .number →
      Atom [sign, token] (.literal (Cell.infer ("-" ++ token.value)))
  | isTrue {token : Token} : token.isKeyword "true" = true → Atom [token] (.literal (.bool true))
  | isFalse {token : Token} :
      token.isKeyword "false" = true → Atom [token] (.literal (.bool false))
  | name {token : Token} :
      token.kind = .identifier → ¬IsReserved token → Atom [token] (.column token.value)

/-- The literals of a list, separated by commas. -/
inductive Literals : List Token → List Cell → Prop where
  | last {tokens : List Token} {value : Cell} :
      Atom tokens (.literal value) → Literals tokens [value]
  | more {tokens later : List Token} {comma : Token} {value : Cell} {values : List Cell} :
      Atom tokens (.literal value) → comma.isPunctuation "," = true → Literals later values →
      Literals (tokens ++ comma :: later) (value :: values)

inductive Compares (token : Token) : Comparison → Prop where
  | equal : token.isOperator "=" = true → Compares token .eq
  | doubleEqual : token.isOperator "==" = true → Compares token .eq
  | unequal : token.isOperator "!=" = true → Compares token .ne
  | less : token.isOperator "<" = true → Compares token .lt
  | lessEqual : token.isOperator "<=" = true → Compares token .le
  | greater : token.isOperator ">" = true → Compares token .gt
  | greaterEqual : token.isOperator ">=" = true → Compares token .ge

/-- The phrases of the grammar with their nesting and their filters. -/
inductive Phrase : Symbol → Nat → List Token → Filter → Prop where
  | conjunction {n : Nat} {tokens : List Token} {filter : Filter} :
      Phrase .conjunction n tokens filter → Phrase .disjunction n tokens filter
  | either {m n : Nat} {left right : List Token} {word : Token} {first second : Filter} :
      Phrase .disjunction m left first → word.isKeyword "OR" = true →
      Phrase .conjunction n right second →
      Phrase .disjunction (max m n) (left ++ word :: right) (.either first second)
  | predicate {n : Nat} {tokens : List Token} {filter : Filter} :
      Phrase .predicate n tokens filter → Phrase .conjunction n tokens filter
  | both {m n : Nat} {left right : List Token} {word : Token} {first second : Filter} :
      Phrase .conjunction m left first → word.isKeyword "AND" = true →
      Phrase .predicate n right second →
      Phrase .conjunction (max m n) (left ++ word :: right) (.both first second)
  | adjacent {m n : Nat} {left right : List Token} {first second : Filter} :
      Phrase .conjunction m left first → Phrase .predicate n right second →
      Phrase .conjunction (max m n) (left ++ right) (.both first second)
  | operand {n : Nat} {tokens : List Token} {filter : Filter} :
      Phrase .operand n tokens filter → Phrase .predicate n tokens filter
  | compare {m n : Nat} {left right : List Token} {sign : Token} {operator : Comparison}
      {first second : Filter} :
      Phrase .operand m left first → Compares sign operator → Phrase .operand n right second →
      Phrase .predicate (max m n) (left ++ sign :: right) (.compare operator first second)
  | member {n : Nat} {field inside : List Token} {word opening closing : Token} {name : String}
      {values : List Cell} :
      Phrase .operand n field (.column name) → word.isKeyword "IN" = true →
      opening.isPunctuation "(" = true → Literals inside values →
      closing.isPunctuation ")" = true →
      Phrase .predicate n (field ++ word :: opening :: (inside ++ [closing])) (.member name values)
  | atom {tokens : List Token} {filter : Filter} :
      Atom tokens filter → Phrase .operand 0 tokens filter
  | parentheses {n : Nat} {inside : List Token} {opening closing : Token} {filter : Filter} :
      opening.isPunctuation "(" = true → Phrase .disjunction n inside filter →
      closing.isPunctuation ")" = true →
      Phrase .operand (n + 1) (opening :: (inside ++ [closing])) filter

section Words

variable {token : Token} {word other : String}

theorem kind_of_isKeyword (isWord : token.isKeyword word = true) : token.kind = .identifier := by
  simp only [Token.isKeyword, Bool.and_eq_true, beq_iff_eq] at isWord
  exact isWord.1

/-- A token is one keyword only. -/
theorem not_isKeyword_of_isKeyword (different : Text.asciiLower word ≠ Text.asciiLower other)
    (isWord : token.isKeyword word = true) : token.isKeyword other = false := by
  simp only [Token.isKeyword, Text.sameIgnoringCase, Bool.and_eq_true, beq_iff_eq] at isWord
  simp [Token.isKeyword, Text.sameIgnoringCase, isWord.2, different]

theorem not_isKeyword_of_kind (different : token.kind ≠ .identifier) (word : String) :
    token.isKeyword word = false := by
  simp [Token.isKeyword, different]

theorem kind_of_isPunctuation {mark : String} (isMark : token.isPunctuation mark = true) :
    token.kind = .punctuation := by
  simp only [Token.isPunctuation, Bool.and_eq_true, beq_iff_eq] at isMark
  exact isMark.1

theorem kind_of_isOperator {operator : String} (isSign : token.isOperator operator = true) :
    token.kind = .operator := by
  simp only [Token.isOperator, Bool.and_eq_true, beq_iff_eq] at isSign
  exact isSign.1

end Words

/-- A literal or a name starts with a token that may start an operand and is no parenthesis. -/
theorem Atom.exists_first {tokens : List Token} {filter : Filter} (derived : Atom tokens filter) :
    ∃ first later, tokens = first :: later ∧ startsOperand first = true ∧
      first.kind ≠ .punctuation := by
  have ofWord {word : String} {token : Token} (isWord : token.isKeyword word = true)
      (other : ∀ keyword ∈ ["AND", "OR", "IN"], Text.asciiLower word ≠ Text.asciiLower keyword) :
      startsOperand token = true := by
    have notAnd := not_isKeyword_of_isKeyword (other "AND" (by decide)) isWord
    have notOr := not_isKeyword_of_isKeyword (other "OR" (by decide)) isWord
    have notIn := not_isKeyword_of_isKeyword (other "IN" (by decide)) isWord
    simp [startsOperand, kind_of_isKeyword isWord, isKeyword, notAnd, notOr, notIn]
  cases derived with
  | text kind | number kind => exact ⟨_, _, rfl, by simp [startsOperand, kind], by simp [kind]⟩
  | negative minus _ =>
      simp only [Token.isOperator, Bool.and_eq_true, beq_iff_eq] at minus
      exact ⟨_, _, rfl, by simp [startsOperand, minus], by simp [minus]⟩
  | isTrue word | isFalse word =>
      exact ⟨_, _, rfl, ofWord word (by decide), by simp [kind_of_isKeyword word]⟩
  | name kind free =>
      simp only [IsReserved, not_or, Bool.not_eq_true] at free
      exact ⟨_, _, rfl, by simp [startsOperand, kind, free], by simp [kind]⟩

theorem comparison?_eq_some_iff {token : Token} {operator : Comparison} :
    comparison? token = some operator ↔ Compares token operator := by
  rw [comparison?.eq_def]
  by_cases kind : token.kind = .operator
  · have isSign (sign : String) : token.isOperator sign = true ↔ token.value = sign := by
      simp [Token.isOperator, kind]
    rw [if_neg (by simp [kind])]
    constructor
    · intro found
      split at found
      · next written => cases found; exact .equal ((isSign _).mpr written)
      · next written => cases found; exact .doubleEqual ((isSign _).mpr written)
      · next written => cases found; exact .unequal ((isSign _).mpr written)
      · next written => cases found; exact .less ((isSign _).mpr written)
      · next written => cases found; exact .lessEqual ((isSign _).mpr written)
      · next written => cases found; exact .greater ((isSign _).mpr written)
      · next written => cases found; exact .greaterEqual ((isSign _).mpr written)
      · cases found
    · rintro (written | written | written | written | written | written | written) <;>
        simp [(isSign _).mp written]
  · rw [if_pos (by simpa using kind)]
    constructor
    · intro found
      cases found
    · rintro (written | written | written | written | written | written | written) <;>
        exact absurd (kind_of_isOperator written) kind

theorem kind_of_compares {token : Token} {operator : Comparison}
    (compares : Compares token operator) : token.kind = .operator := by
  cases compares with
  | equal written | doubleEqual written | unequal written | less written | lessEqual written
  | greater written | greaterEqual written => exact kind_of_isOperator written

end LogPipe.Filter
