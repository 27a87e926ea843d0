import LogPipe.Proofs.Formula.Derivation

/-!
# What has a derivation is read

A reader goes on as long as the next token binds what it has read.  So a phrase is read up to
its end when nothing that follows binds it, and a loop that has read a phrase stands in front
of what follows.
-/

namespace LogPipe.Formula

/-- How strongly a token binds an operand in front of it. -/
def Token.strength : Token → Nat
  | .or => 1
  | .and => 2
  | .equal | .assign | .unequal | .greater | .greaterEqual | .less | .lessEqual => 3
  | .plus | .minus => 4
  | .star | .slash | .percent => 5
  | .doubleStar => 6
  | .openParenthesis | .openBracket | .dot => 7
  | _ => 0

/-- How high in the grammar a token stands that starts a phrase. -/
def Token.height : Token → Nat
  | .int _ | .float _ | .text _ | .name _ | .openParenthesis | .openBracket => 0
  | .plus | .minus => 1
  | .not => 2
  | _ => 3

/-- How high the tokens stand that start the phrases of a symbol. -/
def Symbol.height : Symbol → Nat
  | .atom | .suffixed | .power => 0
  | .signed | .product | .sum | .comparison => 1
  | _ => 2

/-- A phrase starts with a token that may start it. -/
theorem Phrase.exists_first {negate : Formula → Formula} {symbol : Symbol} {n : Nat}
    {tokens : List Token} {tree : symbol.Tree} (derived : Phrase negate symbol n tokens tree) :
    ∃ first later, tokens = first :: later ∧ first.height ≤ symbol.height := by
  induction derived with
  | expression _ induction | conjunction _ induction | negation _ induction
  | sum _ induction | product _ induction | signed _ induction | suffixed _ induction
  | atom _ induction | item _ induction | positional _ _ induction => exact induction
  | comparison _ induction | power _ induction =>
      obtain ⟨first, later, rfl, low⟩ := induction
      exact ⟨first, later, rfl, Nat.le_trans low (by decide)⟩
  | either _ _ induction | both _ _ induction | compare _ _ _ induction
  | add _ _ _ induction | multiply _ _ _ induction | raise _ _ induction
  | callNothing _ induction | call _ _ induction | member _ induction
  | subscript _ _ induction | items _ _ induction | positionalThen _ _ _ induction =>
      obtain ⟨first, later, rfl, low⟩ := induction
      exact ⟨first, _, rfl, low⟩
  | invert | minus | plus => exact ⟨_, _, rfl, Nat.le_refl _⟩
  | int | float | text | word | name | parentheses | noItems | list | keyword | keywordThen =>
      exact ⟨_, _, rfl, Nat.zero_le _⟩

theorem Phrase.ne_nil {negate : Formula → Formula} {symbol : Symbol} {n : Nat}
    {tokens : List Token} {tree : symbol.Tree} (derived : Phrase negate symbol n tokens tree) :
    tokens ≠ [] := by
  obtain ⟨first, later, rfl, -⟩ := derived.exists_first
  exact List.cons_ne_nil _ _

section Chain

variable {operator? : Token → Option (Formula → Formula → Formula)}
  {operand : List Token → Parsed Formula} {tokens left right rest : List Token} {token : Token}
  {join : Formula → Formula → Formula} {first second : Formula}

theorem resumes_operand (read : operand tokens = .ok (first, rest)) :
    Resumes (readLeft operator? operand tokens) (readChain operator? operand first rest) rest := by
  rw [readLeft_eq, readChain_eq]
  exact Chain.resumes_part read

theorem resumes_operator
    (resumes : Resumes (readLeft operator? operand (left ++ token :: (right ++ rest)))
      (readChain operator? operand first (token :: (right ++ rest))) (token :: (right ++ rest)))
    (found : operator? token = some join) (read : operand (right ++ rest) = .ok (second, rest)) :
    Resumes (readLeft operator? operand (left ++ token :: right ++ rest))
      (readChain operator? operand (join first second) rest) rest := by
  rw [readChain_eq] at resumes ⊢
  rw [List.append_assoc, List.cons_append]
  exact Chain.resumes_more resumes (by simp [afterOperator, found]) read (by simp)

theorem eq_ok_of_resumes (resumes : Resumes (readLeft operator? operand tokens)
      (readChain operator? operand first rest) rest)
    (stops : ∀ token later, rest = token :: later → operator? token = none) :
    readLeft operator? operand tokens = .ok (first, rest) := by
  rw [readChain_eq] at resumes
  exact Chain.eq_ok_of_resumes resumes fun token later split => by
    simp [afterOperator, stops token later split]

end Chain

theorem orOperator?_eq_none {token : Token} (weak : token.strength < 1) :
    orOperator? token = none := by
  cases token <;> first | rfl | exact absurd weak (by decide)

theorem andOperator?_eq_none {token : Token} (weak : token.strength < 2) :
    andOperator? token = none := by
  cases token <;> first | rfl | exact absurd weak (by decide)

theorem comparison?_eq_none {token : Token} (weak : token.strength < 3) :
    comparison? token = none := by
  cases token <;> first | rfl | exact absurd weak (by decide)

theorem sumOperator?_eq_none {token : Token} (weak : token.strength < 4) :
    (sumOperator? token).map Formula.arithmetic = none := by
  cases token <;> first | rfl | exact absurd weak (by decide)

theorem productOperator?_eq_none {token : Token} (weak : token.strength < 5) :
    (productOperator? token).map Formula.arithmetic = none := by
  cases token <;> first | rfl | exact absurd weak (by decide)

theorem strength_of_compares {token : Token} {operator : Comparison}
    (compares : Compares token operator) : token.strength = 3 := by
  cases compares <;> rfl

theorem strength_of_adds {token : Token} {operator : Arithmetic} (adds : Adds token operator) :
    token.strength = 4 := by
  cases adds <;> rfl

theorem strength_of_multiplies {token : Token} {operator : Arithmetic}
    (multiplies : Multiplies token operator) : token.strength = 5 := by
  cases multiplies <;> rfl

section Suffixes

variable {deeper : Deeper} {formula : Formula} {tokens rest : List Token}

theorem readSuffixes_stop (stops : Stops Token.strength 7 rest) (rounds : Nat) :
    readSuffixes deeper formula rest rounds = .ok (formula, rest) := by
  cases rounds with
  | zero => rfl
  | succ rounds =>
      cases rest with
      | nil => rfl
      | cons token later =>
          have weak := stops token later rfl
          cases token <;> first | rfl | exact absurd weak (by decide)

/-- A call with arguments is told from one without by the token after the parenthesis. -/
theorem readSuffixes_call {first : Token} (rounds : Nat) (notClosed : first ≠ .closeParenthesis) :
    readSuffixes deeper formula (.openParenthesis :: first :: rest) (rounds + 1) =
      match readArguments deeper [] [] (first :: rest) ((first :: rest).length + 1) with
      | .error fault => .error fault
      | .ok ((arguments, keywords), rest) =>
          readSuffixes deeper (.call formula arguments keywords) rest rounds := by
  cases first <;> first | rfl | exact absurd rfl notClosed

end Suffixes

section Arguments

variable {tokens rest : List Token}

/-- An argument is told from a keyword by its own tokens, because no equals sign follows. -/
theorem not_startsKeyword_append (nonempty : tokens ≠ []) (stops : Stops Token.strength 1 rest)
    (unnamed : ¬StartsKeyword tokens) : ¬StartsKeyword (tokens ++ rest) := by
  rintro ⟨id, behind, split, named⟩
  obtain ⟨first, later, rfl⟩ := List.exists_cons_of_ne_nil nonempty
  obtain ⟨rfl, after⟩ := List.cons_eq_cons.mp split
  cases later with
  | nil => exact absurd (stops _ _ after) (by decide)
  | cons second later =>
      obtain ⟨rfl, -⟩ := List.cons_eq_cons.mp after
      exact unnamed ⟨id, later, rfl, named⟩

end Arguments

theorem readNegation_of_height {deeper : Deeper} {first : Token} {later : List Token}
    (low : first.height ≤ 1) :
    readNegation deeper (first :: later) = readComparison deeper (first :: later) := by
  cases first <;> first | rfl | exact absurd low (by decide)

theorem readSign_of_height {deeper : Deeper} {first : Token} {later : List Token}
    (low : first.height ≤ 0) :
    readSign deeper (first :: later) = readPower deeper (first :: later) := by
  cases first <;> first | rfl | exact absurd low (by decide)

/-- What the readers of a level do with a phrase and the tokens after it. -/
def Recognized (limit : Nat) : (symbol : Symbol) → List Token → symbol.Tree → Prop
  | .expression, tokens, formula => ∀ rest, Stops Token.strength 1 rest →
      (deeper limit).disjunction (tokens ++ rest) = .ok (formula, rest)
  | .disjunction, tokens, formula => ∀ rest, Stops Token.strength 2 rest →
      Resumes (readDisjunction (deeper limit) (tokens ++ rest))
        (readChain orOperator? (readConjunction (deeper limit)) formula rest) rest
  | .conjunction, tokens, formula => ∀ rest, Stops Token.strength 3 rest →
      Resumes (readConjunction (deeper limit) (tokens ++ rest))
        (readChain andOperator? (readNegation (deeper limit)) formula rest) rest
  | .negation, tokens, formula => ∀ rest, Stops Token.strength 3 rest →
      readNegation (deeper limit) (tokens ++ rest) = .ok (formula, rest)
  | .comparison, tokens, formula => ∀ rest, Stops Token.strength 3 rest →
      readComparison (deeper limit) (tokens ++ rest) = .ok (formula, rest)
  | .sum, tokens, formula => ∀ rest, Stops Token.strength 5 rest →
      Resumes (readSum (deeper limit) (tokens ++ rest))
        (readChain (fun token => (sumOperator? token).map Formula.arithmetic)
          (readProduct (deeper limit)) formula rest) rest
  | .product, tokens, formula => ∀ rest, Stops Token.strength 6 rest →
      Resumes (readProduct (deeper limit) (tokens ++ rest))
        (readChain (fun token => (productOperator? token).map Formula.arithmetic)
          (readSign (deeper limit)) formula rest) rest
  | .signed, tokens, formula => ∀ rest, Stops Token.strength 6 rest →
      readSign (deeper limit) (tokens ++ rest) = .ok (formula, rest)
  | .power, tokens, formula => ∀ rest, Stops Token.strength 6 rest →
      readPower (deeper limit) (tokens ++ rest) = .ok (formula, rest)
  | .suffixed, tokens, formula => ∀ rest,
      Resumes (readPostfix (deeper limit) (tokens ++ rest))
        (readSuffixes (deeper limit) formula rest) rest
  | .atom, tokens, formula => ∀ rest,
      readAtom (deeper limit) (tokens ++ rest) = .ok (formula, rest)
  | .items, tokens, formulas => ∀ rest rounds, tokens.length < rounds →
      readItems (deeper limit) (tokens ++ .closeBracket :: rest) rounds = .ok (formulas, rest)
  | .arguments, tokens, arguments => ∀ positional keywords rest rounds,
      keywords = [] ∨ arguments.1 = [] → tokens.length < rounds →
      readArguments (deeper limit) positional keywords (tokens ++ .closeParenthesis :: rest)
        rounds = .ok ((positional ++ arguments.1, keywords ++ arguments.2), rest)

namespace Recognized

variable {limit : Nat} {tokens rest : List Token} {formula : Formula}

theorem readConjunction (recognized : Recognized limit .conjunction tokens formula)
    (stops : Stops Token.strength 2 rest) :
    readConjunction (deeper limit) (tokens ++ rest) = .ok (formula, rest) :=
  eq_ok_of_resumes (recognized rest (stops.mono (by decide))) fun token later split =>
    andOperator?_eq_none (stops token later split)

theorem readSum (recognized : Recognized limit .sum tokens formula)
    (stops : Stops Token.strength 4 rest) :
    readSum (deeper limit) (tokens ++ rest) = .ok (formula, rest) :=
  eq_ok_of_resumes (recognized rest (stops.mono (by decide))) fun token later split =>
    sumOperator?_eq_none (stops token later split)

theorem readProduct (recognized : Recognized limit .product tokens formula)
    (stops : Stops Token.strength 5 rest) :
    readProduct (deeper limit) (tokens ++ rest) = .ok (formula, rest) :=
  eq_ok_of_resumes (recognized rest (stops.mono (by decide))) fun token later split =>
    productOperator?_eq_none (stops token later split)

theorem readPostfix (recognized : Recognized limit .suffixed tokens formula)
    (stops : Stops Token.strength 7 rest) :
    readPostfix (deeper limit) (tokens ++ rest) = .ok (formula, rest) := by
  obtain ⟨rounds, -, same⟩ := recognized rest
  rw [same, readSuffixes_stop stops]

theorem disjunction (recognized : Recognized limit .disjunction tokens formula) :
    Recognized (limit + 1) .expression tokens formula := by
  intro rest stops
  exact eq_ok_of_resumes (recognized rest (stops.mono (by decide))) fun token later split =>
    orOperator?_eq_none (stops token later split)

theorem compare {left right : List Token} {token : Token} {operator : Comparison}
    {first second : Formula} (leftRecognized : Recognized limit .sum left first)
    (compares : Compares token operator) (rightRecognized : Recognized limit .sum right second) :
    Recognized limit .comparison (left ++ token :: right) (.compare operator first second) := by
  intro rest stops
  have weak : token.strength < 4 := by rw [strength_of_compares compares]; decide
  have leftRead : Formula.readSum (deeper limit) (left ++ token :: (right ++ rest)) =
      .ok (first, token :: (right ++ rest)) := leftRecognized.readSum (stops_cons weak)
  have rightRead := rightRecognized.readSum (stops.mono (by decide))
  rw [List.append_assoc, List.cons_append, Formula.readComparison, leftRead]
  simp only [comparison?_eq_some_iff.mpr compares, rightRead]

theorem sum (recognized : Recognized limit .sum tokens formula) :
    Recognized limit .comparison tokens formula := by
  intro rest stops
  rw [Formula.readComparison, recognized.readSum (stops.mono (by decide))]
  cases rest with
  | nil => rfl
  | cons token later => simp only [comparison?_eq_none (stops token later rfl)]

theorem raise {base exponent : List Token} {first second : Formula}
    (baseRecognized : Recognized (limit + 1) .suffixed base first)
    (exponentRecognized : Recognized limit .signed exponent second) :
    Recognized (limit + 1) .power (base ++ .doubleStar :: exponent)
      (.arithmetic .pow first second) := by
  intro rest stops
  have baseRead : Formula.readPostfix (deeper (limit + 1))
      (base ++ .doubleStar :: (exponent ++ rest)) =
        .ok (first, .doubleStar :: (exponent ++ rest)) :=
    baseRecognized.readPostfix (stops_cons (by decide))
  have exponentRead : (deeper (limit + 1)).sign (exponent ++ rest) = .ok (second, rest) :=
    exponentRecognized rest stops
  rw [List.append_assoc, List.cons_append, Formula.readPower, baseRead]
  simp only [exponentRead]

theorem suffixed (recognized : Recognized limit .suffixed tokens formula) :
    Recognized limit .power tokens formula := by
  intro rest stops
  rw [Formula.readPower, recognized.readPostfix (stops.mono (by decide))]
  cases rest with
  | nil => rfl
  | cons token later =>
      have weak := stops token later rfl
      cases token <;> first | rfl | exact absurd weak (by decide)

/-- A suffix takes some tokens off what follows an operand. -/
theorem suffix {suffix : List Token} {whole : Formula}
    (recognized : Recognized limit .suffixed tokens formula)
    (step : ∀ rest rounds,
      readSuffixes (deeper limit) formula (suffix ++ rest) (rounds + 1) =
        readSuffixes (deeper limit) whole rest rounds)
    (nonempty : 0 < suffix.length) :
    Recognized limit .suffixed (tokens ++ suffix) whole := by
  intro rest
  obtain ⟨rounds, enough, same⟩ := recognized (suffix ++ rest)
  rw [List.length_append] at enough
  cases rounds with
  | zero => omega
  | succ rounds => exact ⟨rounds, by omega, by rw [List.append_assoc, same, step]⟩

theorem call {first : Token} {later : List Token} {positional : List Formula}
    {keywords : List (String × Formula)} (notClosed : first ≠ .closeParenthesis)
    (recognized : Recognized limit .suffixed tokens formula)
    (inside : Recognized limit .arguments (first :: later) (positional, keywords)) :
    Recognized limit .suffixed
      (tokens ++ .openParenthesis :: (first :: later ++ [.closeParenthesis]))
      (.call formula positional keywords) := by
  refine recognized.suffix (fun rest rounds => ?_) (Nat.succ_pos _)
  have enough : (first :: later).length <
      (first :: (later ++ .closeParenthesis :: rest)).length + 1 := by
    rw [List.length_cons, List.length_cons, List.length_append]
    omega
  have argumentsRead := inside [] [] rest _ (.inl rfl) enough
  simp only [List.cons_append, List.append_assoc, List.nil_append] at argumentsRead ⊢
  rw [readSuffixes_call rounds notClosed, argumentsRead]

theorem subscript {inside : List Token} {index : Formula}
    (recognized : Recognized limit .suffixed tokens formula)
    (insideRecognized : Recognized limit .expression inside index) :
    Recognized limit .suffixed (tokens ++ .openBracket :: (inside ++ [.closeBracket]))
      (.subscript formula index) := by
  refine recognized.suffix (fun rest rounds => ?_) (Nat.succ_pos _)
  have indexRead := insideRecognized (.closeBracket :: rest) (stops_cons (by decide))
  simp [readSuffixes, indexRead, expect]

theorem list {first : Token} {later : List Token} {items : List Formula}
    (notClosed : first ≠ .closeBracket)
    (recognized : Recognized limit .items (first :: later) items) :
    Recognized limit .atom (.openBracket :: (first :: later ++ [.closeBracket])) (.list items) := by
  intro rest
  have enough : (first :: later).length <
      (first :: (later ++ .closeBracket :: rest)).length + 1 := by
    rw [List.length_cons, List.length_cons, List.length_append]
    omega
  have itemsRead := recognized rest _ enough
  simp only [List.cons_append, List.append_assoc, List.nil_append] at itemsRead ⊢
  have opened : ∀ after, first :: (later ++ .closeBracket :: rest) ≠ .closeBracket :: after := by
    rintro after ⟨⟩
    exact notClosed rfl
  rw [readAtom_list opened, itemsRead]

theorem parentheses (recognized : Recognized limit .expression tokens formula) :
    Recognized limit .atom (.openParenthesis :: (tokens ++ [.closeParenthesis])) formula := by
  intro rest
  have insideRead := recognized (.closeParenthesis :: rest) (stops_cons (by decide))
  simp [readAtom_parentheses, insideRead, expect]

theorem item (recognized : Recognized limit .expression tokens formula) :
    Recognized limit .items tokens [formula] := by
  intro rest rounds enough
  have itemRead := recognized (.closeBracket :: rest) (stops_cons (by decide))
  cases rounds with
  | zero => omega
  | succ rounds => simp [readItems, itemRead, expect]

theorem items {later : List Token} {formulas : List Formula}
    (recognized : Recognized limit .expression tokens formula)
    (laterRecognized : Recognized limit .items later formulas) :
    Recognized limit .items (tokens ++ .comma :: later) (formula :: formulas) := by
  intro rest rounds enough
  have itemRead := recognized (.comma :: (later ++ .closeBracket :: rest))
    (stops_cons (by decide))
  rw [List.length_append, List.length_cons] at enough
  cases rounds with
  | zero => omega
  | succ rounds =>
      have laterRead := laterRecognized rest rounds (by omega)
      simp [readItems, itemRead, laterRead]

section Arguments

variable {later : List Token} {id : String} {positionals : List Formula}
  {laterKeywords : List (String × Formula)}

/-- An argument is read up to its end, and what follows says how the arguments go on. -/
theorem readArguments_positional (recognized : Recognized limit .expression tokens formula)
    (unnamed : ¬StartsKeyword tokens) (nonempty : tokens ≠ []) (stops : Stops Token.strength 1 rest)
    (positional : List Formula) (rounds : Nat) :
    readArguments (deeper limit) positional [] (tokens ++ rest) (rounds + 1) =
      afterArgument (deeper limit) (positional ++ [formula]) [] rest rounds := by
  rw [Formula.readArguments_positional (not_startsKeyword_append nonempty stops unnamed),
    recognized rest stops]
  rfl

theorem readArguments_keyword (recognized : Recognized limit .expression tokens formula)
    (named : isKeywordName id = true) (stops : Stops Token.strength 1 rest)
    (positional : List Formula) (keywords : List (String × Formula)) (rounds : Nat) :
    readArguments (deeper limit) positional keywords (.name id :: .assign :: (tokens ++ rest))
        (rounds + 1) =
      afterArgument (deeper limit) positional (keywords ++ [(id, formula)]) rest rounds := by
  rw [Formula.readArguments_keyword named, recognized rest stops]
  rfl

theorem positional (unnamed : ¬StartsKeyword tokens) (nonempty : tokens ≠ [])
    (recognized : Recognized limit .expression tokens formula) :
    Recognized limit .arguments tokens ([formula], []) := by
  intro positional keywords rest rounds order enough
  obtain rfl : keywords = [] := order.resolve_right (List.cons_ne_nil _ _)
  have stops : Stops Token.strength 1 (.closeParenthesis :: rest) := stops_cons (by decide)
  cases rounds with
  | zero => omega
  | succ rounds =>
      rw [recognized.readArguments_positional unnamed nonempty stops]
      exact afterArgument_eq_ok_iff.mpr (.inr ⟨rfl, rfl⟩)

theorem keyword (named : isKeywordName id = true)
    (recognized : Recognized limit .expression tokens formula) :
    Recognized limit .arguments (.name id :: .assign :: tokens) ([], [(id, formula)]) := by
  intro positional keywords rest rounds _ enough
  have stops : Stops Token.strength 1 (.closeParenthesis :: rest) := stops_cons (by decide)
  cases rounds with
  | zero => omega
  | succ rounds =>
      rw [List.cons_append, List.cons_append, recognized.readArguments_keyword named stops]
      exact afterArgument_eq_ok_iff.mpr (.inr ⟨rfl, by rw [List.append_nil]⟩)

theorem positionalThen (unnamed : ¬StartsKeyword tokens) (nonempty : tokens ≠ [])
    (recognized : Recognized limit .expression tokens formula)
    (laterRecognized : Recognized limit .arguments later (positionals, laterKeywords)) :
    Recognized limit .arguments (tokens ++ .comma :: later)
      (formula :: positionals, laterKeywords) := by
  intro positional keywords rest rounds order enough
  obtain rfl : keywords = [] := order.resolve_right (List.cons_ne_nil _ _)
  have stops : Stops Token.strength 1 (.comma :: (later ++ .closeParenthesis :: rest)) :=
    stops_cons (by decide)
  rw [List.length_append, List.length_cons] at enough
  cases rounds with
  | zero => omega
  | succ rounds =>
      have laterRead := laterRecognized (positional ++ [formula]) [] rest rounds (.inl rfl)
        (by omega)
      rw [List.append_assoc, List.singleton_append] at laterRead
      rw [List.append_assoc, List.cons_append,
        recognized.readArguments_positional unnamed nonempty stops]
      exact afterArgument_eq_ok_iff.mpr (.inl ⟨_, rfl, laterRead⟩)

theorem keywordThen (named : isKeywordName id = true)
    (recognized : Recognized limit .expression tokens formula)
    (laterRecognized : Recognized limit .arguments later ([], laterKeywords)) :
    Recognized limit .arguments (.name id :: .assign :: (tokens ++ .comma :: later))
      ([], (id, formula) :: laterKeywords) := by
  intro positional keywords rest rounds _ enough
  have stops : Stops Token.strength 1 (.comma :: (later ++ .closeParenthesis :: rest)) :=
    stops_cons (by decide)
  simp only [List.length_append, List.length_cons] at enough
  cases rounds with
  | zero => omega
  | succ rounds =>
      have laterRead := laterRecognized positional (keywords ++ [(id, formula)]) rest rounds
        (.inr rfl) (by omega)
      rw [List.append_assoc, List.singleton_append] at laterRead
      rw [List.cons_append, List.cons_append, List.append_assoc, List.cons_append,
        recognized.readArguments_keyword named stops]
      exact afterArgument_eq_ok_iff.mpr (.inl ⟨_, rfl, laterRead⟩)

end Arguments

end Recognized

theorem Phrase.recognized {symbol : Symbol} {n : Nat} {tokens : List Token} {tree : symbol.Tree}
    (derived : Phrase negated symbol n tokens tree) {limit : Nat} (low : n ≤ limit) :
    Recognized limit symbol tokens tree := by
  induction derived generalizing limit with
  | expression _ induction =>
      obtain ⟨below, rfl⟩ := Nat.exists_eq_add_of_lt low
      exact (induction (Nat.le_add_right _ _)).disjunction
  | conjunction _ induction =>
      intro rest stops
      exact resumes_operand ((induction low).readConjunction stops)
  | either _ _ first second =>
      intro rest stops
      obtain ⟨firstLow, secondLow⟩ := Nat.max_le.mp low
      exact resumes_operator (first firstLow _ (stops_cons (by decide))) rfl
        ((second secondLow).readConjunction stops)
  | negation _ induction =>
      intro rest stops
      exact resumes_operand (induction low rest stops)
  | both _ _ first second =>
      intro rest stops
      obtain ⟨firstLow, secondLow⟩ := Nat.max_le.mp low
      exact resumes_operator (first firstLow _ (stops_cons (by decide))) rfl
        (second secondLow rest stops)
  | comparison derived induction =>
      intro rest stops
      obtain ⟨first, later, rfl, height⟩ := derived.exists_first
      rw [← induction low rest stops]
      exact readNegation_of_height height
  | invert _ induction =>
      intro rest stops
      obtain ⟨below, rfl⟩ := Nat.exists_eq_add_of_lt low
      have operandRead : (deeper (_ + below + 1)).negation (_ ++ rest) = .ok (_, rest) :=
        induction (Nat.le_add_right _ below) rest stops
      simp [readNegation, operandRead]
  | sum _ induction => exact (induction low).sum
  | compare _ compares _ first second =>
      obtain ⟨firstLow, secondLow⟩ := Nat.max_le.mp low
      exact (first firstLow).compare compares (second secondLow)
  | product _ induction =>
      intro rest stops
      exact resumes_operand ((induction low).readProduct stops)
  | add _ adds _ first second =>
      intro rest stops
      obtain ⟨firstLow, secondLow⟩ := Nat.max_le.mp low
      exact resumes_operator
        (first firstLow _ (stops_cons (by rw [strength_of_adds adds]; decide)))
        (by rw [sumOperator?_eq_some_iff.mpr adds]; rfl) ((second secondLow).readProduct stops)
  | signed _ induction =>
      intro rest stops
      exact resumes_operand (induction low rest stops)
  | multiply _ multiplies _ first second =>
      intro rest stops
      obtain ⟨firstLow, secondLow⟩ := Nat.max_le.mp low
      exact resumes_operator
        (first firstLow _ (stops_cons (by rw [strength_of_multiplies multiplies]; decide)))
        (by rw [productOperator?_eq_some_iff.mpr multiplies]; rfl) (second secondLow rest stops)
  | power derived induction =>
      intro rest stops
      obtain ⟨first, later, rfl, height⟩ := derived.exists_first
      rw [← induction low rest stops]
      exact readSign_of_height height
  | minus _ induction =>
      intro rest stops
      obtain ⟨below, rfl⟩ := Nat.exists_eq_add_of_lt low
      have operandRead : (deeper (_ + below + 1)).sign (_ ++ rest) = .ok (_, rest) :=
        induction (Nat.le_add_right _ below) rest stops
      simp [readSign, operandRead]
  | plus _ induction =>
      intro rest stops
      obtain ⟨below, rfl⟩ := Nat.exists_eq_add_of_lt low
      exact induction (Nat.le_add_right _ below) rest stops
  | suffixed _ induction => exact (induction low).suffixed
  | raise _ _ first second =>
      obtain ⟨firstLow, secondLow⟩ := Nat.max_le.mp low
      obtain ⟨below, rfl⟩ := Nat.exists_eq_add_of_lt secondLow
      exact (first firstLow).raise (second (Nat.le_add_right _ _))
  | atom _ induction =>
      intro rest
      exact ⟨rest.length, Nat.le_refl _, by rw [readPostfix, induction low rest]⟩
  | callNothing _ induction =>
      exact (induction low).suffix (fun _ _ => rfl) (Nat.succ_pos _)
  | call _ arguments first second =>
      obtain ⟨firstLow, secondLow⟩ := Nat.max_le.mp low
      obtain ⟨token, later, rfl, height⟩ := arguments.exists_first
      have notClosed : token ≠ .closeParenthesis := by
        rintro rfl
        exact absurd height (by decide)
      exact (first firstLow).call notClosed (second secondLow)
  | member _ induction =>
      exact (induction low).suffix (fun _ _ => rfl) (Nat.succ_pos _)
  | subscript _ _ first second =>
      obtain ⟨firstLow, secondLow⟩ := Nat.max_le.mp low
      exact (first firstLow).subscript (second secondLow)
  | int => exact fun _ => rfl
  | float => exact fun _ => rfl
  | text => exact fun _ => rfl
  | word word =>
      intro rest
      rw [List.singleton_append, readAtom_name, ofName_of_word word]
  | name never =>
      intro rest
      rw [List.singleton_append, readAtom_name, ofName_of_not_word never]
  | parentheses _ induction => exact (induction low).parentheses
  | noItems => exact fun _ => rfl
  | list items induction =>
      obtain ⟨token, later, rfl, height⟩ := items.exists_first
      have notClosed : token ≠ .closeBracket := by
        rintro rfl
        exact absurd height (by decide)
      exact (induction low).list notClosed
  | item _ induction => exact (induction low).item
  | items _ _ first second =>
      obtain ⟨firstLow, secondLow⟩ := Nat.max_le.mp low
      exact (first firstLow).items (second secondLow)
  | positional unnamed derived induction =>
      exact (induction low).positional unnamed derived.ne_nil
  | keyword named _ induction => exact (induction low).keyword named
  | positionalThen unnamed derived _ first second =>
      obtain ⟨firstLow, secondLow⟩ := Nat.max_le.mp low
      exact (first firstLow).positionalThen unnamed derived.ne_nil (second secondLow)
  | keywordThen named _ _ first second =>
      obtain ⟨firstLow, secondLow⟩ := Nat.max_le.mp low
      exact (first firstLow).keywordThen named (second secondLow)

end LogPipe.Formula
