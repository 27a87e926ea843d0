import LogPipe.Proofs.Chain
import LogPipe.Proofs.Filter.Grammar

/-!
# What is read has a derivation

Each reader takes a phrase of its nonterminal from the front of the tokens.  Conjunctions and
disjunctions are read by one loop, which keeps that what it has joined so far is such a phrase;
they differ in what may stand between two of their parts.
-/

namespace LogPipe.Filter

open LogPipe.Query

/-- A predicate may follow a conjunction after the keyword, or where an operand starts. -/
def afterAnd (token : Token) (rest : List Token) :
    Option ((Filter → Filter → Filter) × List Token) :=
  if token.isKeyword "AND" then some (.both, rest)
  else if startsOperand token then some (.both, token :: rest)
  else none

/-- A conjunction may follow a disjunction after the keyword. -/
def afterOr (token : Token) (rest : List Token) :
    Option ((Filter → Filter → Filter) × List Token) :=
  if token.isKeyword "OR" then some (.either, rest) else none

section Readers

variable {operand : List Token → Parsed Filter} {tokens rest : List Token} {filter : Filter}

theorem readConjuncts_eq (left : Filter) (tokens : List Token) (rounds : Nat) :
    readConjuncts operand left tokens rounds =
      Chain.loop afterAnd (readPredicate operand) left tokens rounds := by
  induction rounds generalizing left tokens with
  | zero => rfl
  | succ rounds induction =>
      cases tokens with
      | nil => rfl
      | cons token rest =>
          by_cases word : token.isKeyword "AND" = true
          · simp only [readConjuncts, Chain.loop, afterAnd, word, if_true]
            cases readPredicate operand rest with
            | error fault => rfl
            | ok read => exact induction _ _
          · by_cases starts : startsOperand token = true
            · simp only [readConjuncts, Chain.loop, afterAnd, word, starts, Bool.false_eq_true,
                if_true, if_false]
              cases readPredicate operand (token :: rest) with
              | error fault => rfl
              | ok read => exact induction _ _
            · simp [readConjuncts, Chain.loop, afterAnd, word, starts]

theorem readConjunction_eq :
    readConjunction operand = Chain.read afterAnd (readPredicate operand) := by
  funext tokens
  rw [readConjunction, Chain.read]
  cases readPredicate operand tokens with
  | error fault => rfl
  | ok read => exact readConjuncts_eq read.1 read.2 read.2.length

theorem readDisjuncts_eq (left : Filter) (tokens : List Token) (rounds : Nat) :
    readDisjuncts operand left tokens rounds =
      Chain.loop afterOr (readConjunction operand) left tokens rounds := by
  induction rounds generalizing left tokens with
  | zero => rfl
  | succ rounds induction =>
      cases tokens with
      | nil => rfl
      | cons token rest =>
          by_cases word : token.isKeyword "OR" = true
          · simp only [readDisjuncts, Chain.loop, afterOr, word, if_true]
            cases readConjunction operand rest with
            | error fault => rfl
            | ok read => exact induction _ _
          · simp [readDisjuncts, Chain.loop, afterOr, word]

theorem readDisjunction_eq :
    readDisjunction operand = Chain.read afterOr (readConjunction operand) := by
  funext tokens
  rw [readDisjunction, Chain.read]
  cases readConjunction operand tokens with
  | error fault => rfl
  | ok read => exact readDisjuncts_eq read.1 read.2 read.2.length

/-- What is read as an operand is a literal or a name, and all of them are read. -/
theorem readOperand_eq_ok_iff :
    readOperand tokens = .ok (filter, rest) ↔
      ∃ atom, tokens = atom ++ rest ∧ Atom atom filter := by
  constructor
  · intro read
    rw [readOperand.eq_def] at read
    split at read
    · cases read
    · next token later =>
        split at read
        · next kind =>
            cases read
            exact ⟨[token], rfl, .text kind⟩
        · next kind =>
            cases read
            exact ⟨[token], rfl, .number kind⟩
        · next kind =>
            split at read
            · next minus =>
                split at read
                · next number after =>
                    split at read
                    · next isNumber =>
                        cases read
                        have isMinus : token.isOperator "-" = true := by
                          simp [Token.isOperator, kind, eq_of_beq minus]
                        exact ⟨[token, number], rfl, .negative isMinus (eq_of_beq isNumber)⟩
                    · cases read
                · cases read
            · cases read
        · next kind =>
            split at read
            · next isTrue =>
                cases read
                exact ⟨[token], rfl, .isTrue isTrue⟩
            · next notTrue =>
                split at read
                · next isFalse =>
                    cases read
                    exact ⟨[token], rfl, .isFalse isFalse⟩
                · next notFalse =>
                    split at read
                    · cases read
                    · next notKeyword =>
                        cases read
                        refine ⟨[token], rfl, .name kind ?_⟩
                        rintro (isKeyword | isTrue | isFalse)
                        · exact notKeyword isKeyword
                        · exact notTrue isTrue
                        · exact notFalse isFalse
        · cases read
  · rintro ⟨atom, rfl, derived⟩
    cases derived with
    | text kind => simp [readOperand, kind]
    | number kind => simp [readOperand, kind]
    | negative minus kind =>
        simp only [Token.isOperator, Bool.and_eq_true, beq_iff_eq] at minus
        simp [readOperand, minus, kind]
    | isTrue word => simp [readOperand, kind_of_isKeyword word, word]
    | @isFalse token word =>
        have notTrue : token.isKeyword "true" = false :=
          not_isKeyword_of_isKeyword (by decide) word
        simp [readOperand, kind_of_isKeyword word, word, notTrue]
    | name kind free =>
        simp only [IsReserved, not_or, Bool.not_eq_true] at free
        simp [readOperand, kind, free]

theorem readLiteral_eq_ok_iff {value : Cell} :
    readLiteral tokens = .ok (value, rest) ↔ readOperand tokens = .ok (.literal value, rest) := by
  rw [readLiteral]
  split
  · next failed => simp [failed]
  · next read => simp [read]
  · next read => simp [read]
  · next notLiteral _ read =>
      rw [read]
      constructor
      · intro done
        cases done
      · intro done
        cases done
        exact (notLiteral value rfl).elim

/-- What follows an item of a list: the end of the list, or a comma and further items. -/
inductive ListTail : List Token → List Cell → List Token → Prop where
  | closed {closing : Token} {rest : List Token} :
      closing.isPunctuation ")" = true → ListTail (closing :: rest) [] rest
  | more {comma : Token} {item after rest : List Token} {value : Cell} {values : List Cell} :
      comma.isPunctuation "," = true → Atom item (.literal value) → ListTail after values rest →
      ListTail (comma :: (item ++ after)) (value :: values) rest

theorem not_closing_of_comma {token : Token} (comma : token.isPunctuation "," = true) :
    token.isPunctuation ")" = false := by
  simp only [Token.isPunctuation, Bool.and_eq_true, beq_iff_eq] at comma
  simp [Token.isPunctuation, comma]

theorem listTail_of_readListTail {rounds : Nat} {values : List Cell}
    (read : readListTail tokens rounds = .ok (values, rest)) : ListTail tokens values rest := by
  induction rounds generalizing tokens values with
  | zero => cases read
  | succ rounds induction =>
      cases tokens with
      | nil => cases read
      | cons token later =>
          simp only [readListTail] at read
          split at read
          · next closing =>
              cases read
              exact .closed closing
          · split at read
            · next comma =>
                split at read
                · cases read
                · next value after itemRead =>
                    split at read
                    · cases read
                    · next values rest laterRead =>
                        cases read
                        obtain ⟨item, rfl, derived⟩ :=
                          readOperand_eq_ok_iff.mp (readLiteral_eq_ok_iff.mp itemRead)
                        exact .more comma derived (induction laterRead)
            · cases read

theorem ListTail.read {rounds : Nat} {values : List Cell} (tail : ListTail tokens values rest)
    (enough : tokens.length ≤ rounds) :
    readListTail tokens rounds = .ok (values, rest) := by
  induction tail generalizing rounds with
  | closed closing =>
      obtain ⟨rounds, rfl⟩ := Nat.exists_eq_add_one.mpr (Nat.lt_of_lt_of_le (by simp) enough)
      simp [readListTail, closing]
  | @more comma item after rest value values isComma derived tail induction =>
      simp only [List.length_cons, List.length_append] at enough
      obtain ⟨rounds, rfl⟩ := Nat.exists_eq_add_one.mpr (Nat.lt_of_lt_of_le (by simp) enough)
      have itemRead : readLiteral (item ++ after) = .ok (value, after) :=
        readLiteral_eq_ok_iff.mpr (readOperand_eq_ok_iff.mpr ⟨item, rfl, derived⟩)
      have laterRead : readListTail after rounds = .ok (values, rest) := induction (by omega)
      simp [readListTail, not_closing_of_comma isComma, isComma, itemRead, laterRead]

theorem ListTail.exists_literals {item after : List Token} {value : Cell} {values : List Cell}
    (tail : ListTail after values rest) (derived : Atom item (.literal value)) :
    ∃ inside closing, item ++ after = inside ++ closing :: rest ∧
      Literals inside (value :: values) ∧ closing.isPunctuation ")" = true := by
  induction tail generalizing item value with
  | closed closing => exact ⟨item, _, rfl, .last derived, closing⟩
  | more comma nextDerived _ induction =>
      obtain ⟨inside, closing, same, literals, isClosing⟩ := induction nextDerived
      exact ⟨_, closing, by simp [same], .more derived comma literals, isClosing⟩

theorem Literals.exists_tail {inside : List Token} {closing : Token} {values : List Cell}
    (literals : Literals inside values) (isClosing : closing.isPunctuation ")" = true)
    (rest : List Token) :
    ∃ item after value others, inside ++ closing :: rest = item ++ after ∧
      values = value :: others ∧ Atom item (.literal value) ∧ ListTail after others rest := by
  induction literals with
  | last derived => exact ⟨_, _, _, _, rfl, rfl, derived, .closed isClosing⟩
  | more derived comma _ induction =>
      obtain ⟨item, after, value, others, same, rfl, nextDerived, tail⟩ := induction
      exact ⟨_, _, _, _, by simp [same], rfl, derived, .more comma nextDerived tail⟩

/-- A list in parentheses is read exactly when it holds literals and is not empty. -/
theorem readList_eq_ok_iff {values : List Cell} :
    readList tokens = .ok (values, rest) ↔
      ∃ opening inside closing, tokens = opening :: (inside ++ closing :: rest) ∧
        opening.isPunctuation "(" = true ∧ Literals inside values ∧
        closing.isPunctuation ")" = true := by
  constructor
  · intro read
    rw [readList.eq_def] at read
    split at read
    · cases read
    · next opening later =>
        split at read
        · cases read
        · next notOpening =>
            split at read
            · cases read
            · split at read
              · cases read
              · next value after itemRead =>
                  split at read
                  · cases read
                  · next others rest tailRead =>
                      cases read
                      obtain ⟨item, rfl, derived⟩ :=
                        readOperand_eq_ok_iff.mp (readLiteral_eq_ok_iff.mp itemRead)
                      obtain ⟨inside, closing, same, literals, isClosing⟩ :=
                        (listTail_of_readListTail tailRead).exists_literals derived
                      exact ⟨opening, inside, closing, by rw [same], by simpa using notOpening,
                        literals, isClosing⟩
  · rintro ⟨opening, inside, closing, rfl, isOpening, literals, isClosing⟩
    obtain ⟨item, after, value, others, same, rfl, derived, tail⟩ :=
      literals.exists_tail isClosing rest
    have itemRead : readLiteral (item ++ after) = .ok (value, after) :=
      readLiteral_eq_ok_iff.mpr (readOperand_eq_ok_iff.mpr ⟨item, rfl, derived⟩)
    have tailRead : readListTail after (item ++ after).length = .ok (others, rest) :=
      tail.read (by simp)
    have notEmpty : (item ++ after).head?.any (fun next => next.isPunctuation ")") = false := by
      obtain ⟨first, later, rfl, -, kind⟩ := derived.exists_first
      simp [Token.isPunctuation, kind]
    rw [readList.eq_def, same]
    simp only [isOpening, notEmpty, itemRead, tailRead, Bool.not_true, Bool.false_eq_true, if_false]

theorem joins_afterAnd : Chain.Joins afterAnd (Phrase .conjunction) (Phrase .predicate) := by
  intro token rest join after found
  rw [afterAnd] at found
  split at found
  · next word =>
      cases found
      exact ⟨[token], rfl, fun left right => by simpa using left.both word right⟩
  · split at found
    · cases found
      exact ⟨[], rfl, fun left right => by simpa using left.adjacent right⟩
    · cases found

theorem joins_afterOr : Chain.Joins afterOr (Phrase .disjunction) (Phrase .conjunction) := by
  intro token rest join after found
  rw [afterOr] at found
  split at found
  · next word =>
      cases found
      exact ⟨[token], rfl, fun left right => by simpa using left.either word right⟩
  · cases found

section Levels

variable {limit : Nat}
  (operandFront : ∀ {tokens filter rest}, operand tokens = .ok (filter, rest) →
    Front (Phrase .operand) limit tokens filter rest)

include operandFront

theorem readPredicate_front (read : readPredicate operand tokens = .ok (filter, rest)) :
    Front (Phrase .predicate) limit tokens filter rest := by
  rw [readPredicate] at read
  split at read
  · cases read
  · next left leftRead =>
      cases read
      exact (operandFront leftRead).imp fun _ _ derived => .operand derived
  · next left token later leftRead =>
      obtain ⟨front, m, rfl, low, derived⟩ := operandFront leftRead
      split at read
      · next word =>
          split at read
          · next name =>
              split at read
              · cases read
              · next values after listRead =>
                  cases read
                  obtain ⟨opening, inside, closing, rfl, isOpening, literals, isClosing⟩ :=
                    readList_eq_ok_iff.mp listRead
                  exact ⟨_, m, by simp, low,
                    derived.member word isOpening literals isClosing⟩
          · cases read
      · split at read
        · cases read
          exact ⟨front, m, rfl, low, .operand derived⟩
        · next operator found =>
            split at read
            · cases read
            · next right after rightRead =>
                cases read
                obtain ⟨back, n, rfl, rightLow, rightDerived⟩ := operandFront rightRead
                exact ⟨_, _, by simp, Nat.max_le.mpr ⟨low, rightLow⟩,
                  derived.compare (comparison?_eq_some_iff.mp found) rightDerived⟩

theorem readConjunction_front (read : readConjunction operand tokens = .ok (filter, rest)) :
    Front (Phrase .conjunction) limit tokens filter rest := by
  rw [readConjunction_eq] at read
  exact Chain.front_of_read joins_afterAnd .predicate (readPredicate_front operandFront) read

theorem readDisjunction_front (read : readDisjunction operand tokens = .ok (filter, rest)) :
    Front (Phrase .disjunction) limit tokens filter rest := by
  rw [readDisjunction_eq] at read
  exact Chain.front_of_read joins_afterOr .conjunction (readConjunction_front operandFront) read

end Levels

theorem front_of_readOperand (limit : Nat) (read : readOperand tokens = .ok (filter, rest)) :
    Front (Phrase .operand) limit tokens filter rest := by
  obtain ⟨atom, rfl, derived⟩ := readOperand_eq_ok_iff.mp read
  exact ⟨atom, 0, rfl, Nat.zero_le limit, .atom derived⟩

/-- Without a parenthesis an operand is a literal or a name. -/
theorem readPrimary_single {first : Token} (single : first.isPunctuation "(" = false)
    (depth : Nat) (later : List Token) :
    readPrimary depth (first :: later) = readOperand (first :: later) := by
  cases depth <;> simp [readPrimary, single]

theorem readPrimary_parentheses {opening : Token} (isOpening : opening.isPunctuation "(" = true)
    (depth : Nat) (later : List Token) :
    readPrimary (depth + 1) (opening :: later) =
      match readDisjunction (readPrimary depth) later with
      | .error fault => .error fault
      | .ok (_, []) => .error .unclosedParenthesis
      | .ok (inner, closing :: rest) =>
          if closing.isPunctuation ")" then .ok (inner, rest) else .error .unclosedParenthesis :=
  if_pos isOpening

theorem readPrimary_front (depth : Nat) (read : readPrimary depth tokens = .ok (filter, rest)) :
    Front (Phrase .operand) depth tokens filter rest := by
  induction depth generalizing tokens filter rest with
  | zero =>
      cases tokens with
      | nil => cases read
      | cons first later =>
          by_cases isOpening : first.isPunctuation "(" = true
          · simp [readPrimary, isOpening] at read
          · rw [readPrimary_single (by simpa using isOpening)] at read
            exact front_of_readOperand 0 read
  | succ depth induction =>
      cases tokens with
      | nil => cases read
      | cons first later =>
          by_cases isOpening : first.isPunctuation "(" = true
          · rw [readPrimary_parentheses isOpening] at read
            split at read
            · cases read
            · cases read
            · next inner closing after innerRead =>
                split at read
                · next isClosing =>
                    cases read
                    obtain ⟨inside, n, rfl, low, derived⟩ :=
                      readDisjunction_front induction innerRead
                    exact ⟨first :: (inside ++ [closing]), n + 1, by simp,
                      Nat.succ_le_succ low, .parentheses isOpening derived isClosing⟩
                · cases read
          · rw [readPrimary_single (by simpa using isOpening)] at read
            exact front_of_readOperand _ read

end Readers

end LogPipe.Filter
