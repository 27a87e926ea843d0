import LogPipe.Proofs.Chain
import LogPipe.Proofs.Except
import LogPipe.Proofs.Formula.Grammar

/-!
# What is read has a derivation

Each reader takes a phrase of its nonterminal from the front of the tokens.  A loop keeps
that what it has joined so far is such a phrase.
-/

namespace LogPipe.Formula

/-- The readers of deeper levels take phrases that are less deeply nested. -/
structure Deeper.Sound (deeper : Deeper) (limit : Nat) : Prop where
  disjunction : ∀ {tokens formula rest}, deeper.disjunction tokens = .ok (formula, rest) →
    ∃ below < limit, Front (Phrase negated .disjunction) below tokens formula rest
  negation : ∀ {tokens formula rest}, deeper.negation tokens = .ok (formula, rest) →
    ∃ below < limit, Front (Phrase negated .negation) below tokens formula rest
  sign : ∀ {tokens formula rest}, deeper.sign tokens = .ok (formula, rest) →
    ∃ below < limit, Front (Phrase negated .signed) below tokens formula rest

theorem expect_eq_ok_iff {token : Token} {what : Expected} {tokens rest : List Token} {done : Unit} :
    expect token what tokens = .ok (done, rest) ↔ tokens = token :: rest := by
  cases tokens with
  | nil => simp [expect]
  | cons next later =>
      by_cases same : next = token
      · simp [expect, same]
      · simp [expect, same]

section Arguments

variable {deeper : Deeper} {positional : List Formula} {keywords : List (String × Formula)}
  {tokens rest : List Token} {rounds : Nat}

/-- How the arguments of a call go on after one of them. -/
def afterArgument (deeper : Deeper) (positional : List Formula)
    (keywords : List (String × Formula)) (rest : List Token) (rounds : Nat) :
    Parsed (List Formula × List (String × Formula)) :=
  match rest with
  | .comma :: rest => readArguments deeper positional keywords rest rounds
  | rest =>
      match expect .closeParenthesis .endOfCall rest with
      | .error fault => .error fault
      | .ok (_, rest) => .ok ((positional, keywords), rest)

/-- An argument is followed by a comma and further arguments, or by the end of the call. -/
theorem afterArgument_eq_ok_iff {arguments : List Formula × List (String × Formula)} :
    afterArgument deeper positional keywords tokens rounds = .ok (arguments, rest) ↔
      (∃ later, tokens = .comma :: later ∧
        readArguments deeper positional keywords later rounds = .ok (arguments, rest)) ∨
      (tokens = .closeParenthesis :: rest ∧ arguments = (positional, keywords)) := by
  rw [afterArgument.eq_def]
  split
  · next later =>
      constructor
      · intro read
        exact .inl ⟨later, rfl, read⟩
      · rintro (⟨_, same, read⟩ | ⟨same, -⟩)
        · cases same
          exact read
        · cases same
  · next tokens notComma =>
      constructor
      · intro read
        split at read
        · cases read
        · next expected =>
            cases read
            exact .inr ⟨expect_eq_ok_iff.mp expected, rfl⟩
      · rintro (⟨later, rfl, -⟩ | ⟨rfl, rfl⟩)
        · exact absurd rfl (notComma later)
        · simp [expect]

theorem readArguments_keyword {id : String} (named : isKeywordName id = true) :
    readArguments deeper positional keywords (.name id :: .assign :: tokens) (rounds + 1) =
      (deeper.disjunction tokens).bind fun read =>
        afterArgument deeper positional (keywords ++ [(id, read.1)]) read.2 rounds := by
  rw [readArguments, keyword?_eq_some_iff.mpr ⟨rfl, named⟩]
  simp only
  cases deeper.disjunction tokens with
  | error fault => rfl
  | ok read => rfl

theorem readArguments_positional (unnamed : ¬StartsKeyword tokens) :
    readArguments deeper positional [] tokens (rounds + 1) =
      (deeper.disjunction tokens).bind fun read =>
        afterArgument deeper (positional ++ [read.1]) [] read.2 rounds := by
  rw [readArguments, keyword?_eq_none_iff.mpr unnamed]
  cases deeper.disjunction tokens with
  | error fault => rfl
  | ok read => rfl

/-- An argument without a name is refused after one that has a name. -/
theorem keywords_eq_nil_of_readArguments
    {read : (List Formula × List (String × Formula)) × List Token}
    (unnamed : ¬StartsKeyword tokens)
    (done : readArguments deeper positional keywords tokens (rounds + 1) = .ok read) :
    keywords = [] := by
  cases keywords with
  | nil => rfl
  | cons keyword keywords =>
      rw [readArguments, keyword?_eq_none_iff.mpr unnamed] at done
      cases done

end Arguments

section Atom

variable {deeper : Deeper} {rest : List Token}

theorem readAtom_name (id : String) :
    readAtom deeper (.name id :: rest) = .ok (ofName id, rest) :=
  rfl

theorem readAtom_parentheses :
    readAtom deeper (.openParenthesis :: rest) =
      match deeper.disjunction rest with
      | .error fault => .error fault
      | .ok (inner, rest) =>
          match expect .closeParenthesis .closeParenthesis rest with
          | .error fault => .error fault
          | .ok (_, rest) => .ok (inner, rest) :=
  rfl

/-- A list with items is told from one without by the token after the bracket. -/
theorem readAtom_list (notClosed : ∀ after, rest ≠ .closeBracket :: after) :
    readAtom deeper (.openBracket :: rest) =
      match readItems deeper rest (rest.length + 1) with
      | .error fault => .error fault
      | .ok (items, rest) => .ok (.list items, rest) := by
  cases rest with
  | nil => rfl
  | cons first later => cases first <;> first | rfl | exact absurd rfl (notClosed later)

end Atom

section Chain

variable {operator? : Token → Option (Formula → Formula → Formula)}
  {operand : List Token → Parsed Formula} {chains operands : Nat → List Token → Formula → Prop}
  {limit : Nat}

/-- An operand may follow an operator. -/
def afterOperator (operator? : Token → Option (Formula → Formula → Formula)) (token : Token)
    (rest : List Token) : Option ((Formula → Formula → Formula) × List Token) :=
  (operator? token).map (·, rest)

theorem readChain_eq :
    readChain operator? operand = Chain.loop (afterOperator operator?) operand := by
  funext left tokens rounds
  induction rounds generalizing left tokens with
  | zero => rfl
  | succ rounds induction =>
      cases tokens with
      | nil => rfl
      | cons token rest =>
          cases found : operator? token with
          | none => simp [readChain, Chain.loop, afterOperator, found]
          | some join =>
              simp only [readChain, Chain.loop, afterOperator, found, Option.map_some]
              cases operand rest with
              | error fault => rfl
              | ok read => exact induction _ _

theorem readLeft_eq :
    readLeft operator? operand = Chain.read (afterOperator operator?) operand := by
  funext tokens
  rw [readLeft, Chain.read]
  cases operand tokens with
  | error fault => rfl
  | ok read => exact congrFun (congrFun (congrFun readChain_eq read.1) read.2) read.2.length

theorem readLeft_front
    (operandFront : ∀ tokens formula rest, operand tokens = .ok (formula, rest) →
      Front operands limit tokens formula rest)
    (single : ∀ n phrase formula, operands n phrase formula → chains n phrase formula)
    (joins : ∀ m n left right token join first second, operator? token = some join →
      chains m left first → operands n right second →
      chains (max m n) (left ++ token :: right) (join first second))
    {tokens rest : List Token} {formula : Formula}
    (read : readLeft operator? operand tokens = .ok (formula, rest)) :
    Front chains limit tokens formula rest := by
  rw [readLeft_eq] at read
  refine Chain.front_of_read ?_ (single _ _ _) (operandFront _ _ _) read
  intro token rest join after found
  obtain ⟨_, isOperator, same⟩ := Option.map_eq_some_iff.mp found
  cases same
  exact ⟨[token], rfl, fun left right => by
    simpa using joins _ _ _ _ _ _ _ _ isOperator left right⟩

end Chain

namespace Deeper.Sound

variable {deeper : Deeper} {limit : Nat} {tokens rest : List Token} {formula : Formula}

theorem expression (sound : deeper.Sound limit)
    (read : deeper.disjunction tokens = .ok (formula, rest)) :
    Front (Phrase negated .expression) limit tokens formula rest := by
  obtain ⟨below, less, phrase, n, split, low, derived⟩ := sound.disjunction read
  exact ⟨phrase, n + 1, split, by omega, .expression derived⟩

theorem readItems (sound : deeper.Sound limit) {rounds : Nat} {formulas : List Formula}
    (read : readItems deeper tokens rounds = .ok (formulas, rest)) :
    Front (Phrase negated .items) limit tokens formulas (.closeBracket :: rest) := by
  induction rounds generalizing tokens formulas with
  | zero => cases read
  | succ rounds induction =>
      simp only [Formula.readItems] at read
      split at read
      · cases read
      · next item after itemRead =>
          have front := sound.expression itemRead
          split at read
          · next later =>
              split at read
              · cases read
              · next formulas last laterRead =>
                  cases read
                  obtain ⟨phrase, m, rfl, low, derived⟩ := front
                  obtain ⟨further, n, rfl, furtherLow, furtherDerived⟩ := induction laterRead
                  exact ⟨phrase ++ .comma :: further, max m n, by simp,
                    Nat.max_le.mpr ⟨low, furtherLow⟩, .items derived furtherDerived⟩
          · split at read
            · cases read
            · next expected =>
                cases read
                rw [expect_eq_ok_iff] at expected
                rw [← expected]
                exact front.imp fun _ _ derived => .item derived

theorem readArguments (sound : deeper.Sound limit) {rounds : Nat} {positional : List Formula}
    {keywords : List (String × Formula)} {arguments : List Formula × List (String × Formula)}
    (read : readArguments deeper positional keywords tokens rounds = .ok (arguments, rest)) :
    ∃ added, arguments = (positional ++ added.1, keywords ++ added.2) ∧
      (keywords = [] ∨ added.1 = []) ∧
      Front (Phrase negated .arguments) limit tokens added (.closeParenthesis :: rest) := by
  induction rounds generalizing positional keywords tokens with
  | zero => cases read
  | succ rounds induction =>
      by_cases starts : StartsKeyword tokens
      · obtain ⟨id, inside, rfl, named⟩ := starts
        rw [readArguments_keyword named] at read
        obtain ⟨⟨value, after⟩, valueRead, afterRead⟩ := Except.bind_eq_ok_iff.mp read
        obtain ⟨phrase, m, rfl, low, derived⟩ := sound.expression valueRead
        rcases afterArgument_eq_ok_iff.mp afterRead with ⟨later, rfl, laterRead⟩ | ⟨rfl, rfl⟩
        · obtain ⟨⟨positionals, laterKeywords⟩, rfl, order, further, n, rfl, furtherLow,
            furtherDerived⟩ := induction laterRead
          obtain rfl : positionals = [] := order.resolve_left (by simp)
          exact ⟨([], (id, value) :: laterKeywords), by simp, .inr rfl,
            .name id :: .assign :: (phrase ++ .comma :: further), max m n, by simp,
            Nat.max_le.mpr ⟨low, furtherLow⟩, .keywordThen named derived furtherDerived⟩
        · exact ⟨([], [(id, value)]), by simp, .inr rfl, .name id :: .assign :: phrase, m,
            by simp, low, .keyword named derived⟩
      · obtain rfl := keywords_eq_nil_of_readArguments starts read
        rw [readArguments_positional starts] at read
        obtain ⟨⟨value, after⟩, valueRead, afterRead⟩ := Except.bind_eq_ok_iff.mp read
        obtain ⟨phrase, m, rfl, low, derived⟩ := sound.expression valueRead
        have unnamed : ¬StartsKeyword phrase := fun named => starts (named.append after)
        rcases afterArgument_eq_ok_iff.mp afterRead with ⟨later, rfl, laterRead⟩ | ⟨rfl, rfl⟩
        · obtain ⟨added, rfl, -, further, n, rfl, furtherLow, furtherDerived⟩ :=
            induction laterRead
          exact ⟨(value :: added.1, added.2), by simp, .inl rfl, phrase ++ .comma :: further,
            max m n, by simp, Nat.max_le.mpr ⟨low, furtherLow⟩,
            .positionalThen unnamed derived furtherDerived⟩
        · exact ⟨([value], []), by simp, .inl rfl, phrase, m, rfl, low,
            .positional unnamed derived⟩

theorem readAtom (sound : deeper.Sound limit)
    (read : readAtom deeper tokens = .ok (formula, rest)) :
    Front (Phrase negated .atom) limit tokens formula rest := by
  have literal : ∀ {token formula}, Phrase negated .atom 0 [token] formula →
      Front (Phrase negated .atom) limit (token :: rest) formula rest := fun derived =>
    ⟨_, 0, List.singleton_append.symm, Nat.zero_le _, derived⟩
  cases tokens with
  | nil => cases read
  | cons token later =>
      cases token with
      | int value =>
          cases read
          exact literal .int
      | float x =>
          cases read
          exact literal .float
      | text value =>
          cases read
          exact literal .text
      | name id =>
          cases read
          exact literal (phrase_name id)
      | openParenthesis =>
          rw [readAtom_parentheses] at read
          split at read
          · cases read
          · next inner after innerRead =>
              obtain ⟨phrase, n, rfl, low, derived⟩ := sound.expression innerRead
              split at read
              · cases read
              · next expected =>
                  cases read
                  obtain rfl := expect_eq_ok_iff.mp expected
                  exact ⟨_, n, by simp, low, .parentheses derived⟩
      | openBracket =>
          by_cases closed : ∃ after, later = .closeBracket :: after
          · obtain ⟨after, rfl⟩ := closed
            cases read
            exact ⟨[.openBracket, .closeBracket], 0, rfl, Nat.zero_le _, .noItems⟩
          · rw [readAtom_list fun after split => closed ⟨after, split⟩] at read
            split at read
            · cases read
            · next itemsRead =>
                cases read
                obtain ⟨phrase, n, rfl, low, derived⟩ := sound.readItems itemsRead
                exact ⟨_, n, by simp, low, .list derived⟩
      | _ => cases read

theorem readSuffixes (sound : deeper.Sound limit) {rounds m : Nat} {done : List Token}
    {left : Formula} (low : m ≤ limit) (derived : Phrase negated .suffixed m done left)
    (read : readSuffixes deeper left tokens rounds = .ok (formula, rest)) :
    Front (fun n phrase => Phrase negated .suffixed n (done ++ phrase)) limit tokens formula
      rest := by
  induction rounds generalizing m done tokens left with
  | zero =>
      cases read
      exact .nothing low derived
  | succ rounds induction =>
      rw [Formula.readSuffixes.eq_def] at read
      simp only at read
      split at read
      · exact (induction low derived.callNothing read).append
      · split at read
        · cases read
        · next argumentsRead =>
            obtain ⟨added, same, -, inside, n, rfl, insideLow, insideDerived⟩ :=
              sound.readArguments argumentsRead
            cases same
            have called := induction (Nat.max_le.mpr ⟨low, insideLow⟩)
              (derived.call insideDerived) read
            simpa using called.append
      · exact (induction low derived.member read).append
      · cases read
      · split at read
        · cases read
        · next index after indexRead =>
            obtain ⟨inside, n, rfl, insideLow, insideDerived⟩ := sound.expression indexRead
            split at read
            · cases read
            · next expected =>
                obtain rfl := expect_eq_ok_iff.mp expected
                have indexed := induction (Nat.max_le.mpr ⟨low, insideLow⟩)
                  (derived.subscript insideDerived) read
                simpa using indexed.append
      · cases read
        exact .nothing low derived

theorem readPostfix (sound : deeper.Sound limit)
    (read : readPostfix deeper tokens = .ok (formula, rest)) :
    Front (Phrase negated .suffixed) limit tokens formula rest := by
  rw [Formula.readPostfix] at read
  split at read
  · cases read
  · next atomRead =>
      obtain ⟨phrase, n, rfl, low, derived⟩ := sound.readAtom atomRead
      obtain ⟨further, k, rfl, furtherLow, furtherDerived⟩ :=
        sound.readSuffixes low (.atom derived) read
      exact ⟨phrase ++ further, k, by simp, furtherLow, furtherDerived⟩

theorem readPower (sound : deeper.Sound limit)
    (read : readPower deeper tokens = .ok (formula, rest)) :
    Front (Phrase negated .power) limit tokens formula rest := by
  rw [Formula.readPower] at read
  split at read
  · cases read
  · next baseRead =>
      obtain ⟨phrase, m, rfl, low, derived⟩ := sound.readPostfix baseRead
      split at read
      · cases read
      · next exponentRead =>
          cases read
          obtain ⟨below, less, exponent, n, rfl, exponentLow, exponentDerived⟩ :=
            sound.sign exponentRead
          exact ⟨phrase ++ .doubleStar :: exponent, max m (n + 1), by simp, by omega,
            .raise derived exponentDerived⟩
  · next baseRead =>
      cases read
      exact (sound.readPostfix baseRead).imp fun _ _ derived => .suffixed derived

theorem readSign (sound : deeper.Sound limit)
    (read : readSign deeper tokens = .ok (formula, rest)) :
    Front (Phrase negated .signed) limit tokens formula rest := by
  rw [Formula.readSign.eq_def] at read
  split at read
  · split at read
    · cases read
    · next operandRead =>
        cases read
        obtain ⟨below, less, phrase, n, rfl, low, derived⟩ := sound.sign operandRead
        exact ⟨.minus :: phrase, n + 1, rfl, by omega, .minus derived⟩
  · obtain ⟨below, less, phrase, n, rfl, low, derived⟩ := sound.sign read
    exact ⟨.plus :: phrase, n + 1, rfl, by omega, .plus derived⟩
  · exact (sound.readPower read).imp fun _ _ derived => .power derived

theorem readProduct (sound : deeper.Sound limit)
    (read : readProduct deeper tokens = .ok (formula, rest)) :
    Front (Phrase negated .product) limit tokens formula rest := by
  refine readLeft_front (fun _ _ _ => sound.readSign) (fun _ _ _ => .signed) ?_ read
  intro m n left right token join first second found leftDerived rightDerived
  obtain ⟨operator, isOperator, rfl⟩ := Option.map_eq_some_iff.mp found
  exact .multiply leftDerived (productOperator?_eq_some_iff.mp isOperator) rightDerived

theorem readSum (sound : deeper.Sound limit)
    (read : readSum deeper tokens = .ok (formula, rest)) :
    Front (Phrase negated .sum) limit tokens formula rest := by
  refine readLeft_front (fun _ _ _ => sound.readProduct) (fun _ _ _ => .product) ?_ read
  intro m n left right token join first second found leftDerived rightDerived
  obtain ⟨operator, isOperator, rfl⟩ := Option.map_eq_some_iff.mp found
  exact .add leftDerived (sumOperator?_eq_some_iff.mp isOperator) rightDerived

theorem readComparison (sound : deeper.Sound limit)
    (read : readComparison deeper tokens = .ok (formula, rest)) :
    Front (Phrase negated .comparison) limit tokens formula rest := by
  rw [Formula.readComparison] at read
  split at read
  · cases read
  · next leftRead =>
      cases read
      exact (sound.readSum leftRead).imp fun _ _ derived => .sum derived
  · next leftRead =>
      have front := sound.readSum leftRead
      split at read
      · cases read
        exact front.imp fun _ _ derived => .sum derived
      · next isOperator =>
          split at read
          · cases read
          · next rightRead =>
              cases read
              obtain ⟨phrase, m, rfl, low, derived⟩ := front
              obtain ⟨further, n, rfl, furtherLow, furtherDerived⟩ := sound.readSum rightRead
              exact ⟨phrase ++ _ :: further, max m n, by simp,
                Nat.max_le.mpr ⟨low, furtherLow⟩,
                .compare derived (comparison?_eq_some_iff.mp isOperator) furtherDerived⟩

theorem readNegation (sound : deeper.Sound limit)
    (read : readNegation deeper tokens = .ok (formula, rest)) :
    Front (Phrase negated .negation) limit tokens formula rest := by
  rw [Formula.readNegation.eq_def] at read
  split at read
  · split at read
    · cases read
    · next operandRead =>
        cases read
        obtain ⟨below, less, phrase, n, rfl, low, derived⟩ := sound.negation operandRead
        exact ⟨.not :: phrase, n + 1, rfl, by omega, .invert derived⟩
  · exact (sound.readComparison read).imp fun _ _ derived => .comparison derived

theorem readConjunction (sound : deeper.Sound limit)
    (read : readConjunction deeper tokens = .ok (formula, rest)) :
    Front (Phrase negated .conjunction) limit tokens formula rest := by
  refine readLeft_front (fun _ _ _ => sound.readNegation) (fun _ _ _ => .negation) ?_ read
  intro m n left right token join first second found leftDerived rightDerived
  cases token <;> cases found
  exact .both leftDerived rightDerived

theorem readDisjunction (sound : deeper.Sound limit)
    (read : readDisjunction deeper tokens = .ok (formula, rest)) :
    Front (Phrase negated .disjunction) limit tokens formula rest := by
  refine readLeft_front (fun _ _ _ => sound.readConjunction) (fun _ _ _ => .conjunction) ?_ read
  intro m n left right token join first second found leftDerived rightDerived
  cases token <;> cases found
  exact .either leftDerived rightDerived

end Deeper.Sound

/-- The readers of every level are sound. -/
theorem sound_deeper (limit : Nat) : (deeper limit).Sound limit := by
  induction limit with
  | zero => constructor <;> intro tokens formula rest read <;> cases read
  | succ limit induction =>
      constructor
      · intro tokens formula rest read
        exact ⟨limit, Nat.lt_succ_self _, induction.readDisjunction read⟩
      · intro tokens formula rest read
        exact ⟨limit, Nat.lt_succ_self _, induction.readNegation read⟩
      · intro tokens formula rest read
        exact ⟨limit, Nat.lt_succ_self _, induction.readSign read⟩

end LogPipe.Formula
