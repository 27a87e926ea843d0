import LogPipe.Formula.Reading

/-!
# The grammar of formulas

    expression  → disjunction
    disjunction → conjunction | disjunction "or" conjunction
    conjunction → negation | conjunction "and" negation
    negation    → "not" negation | comparison
    comparison  → sum | sum ("==" | "=" | "!=" | ">" | ">=" | "<" | "<=") sum
    sum         → product | sum ("+" | "-") product
    product     → signed | product ("*" | "/" | "%") signed
    signed      → ("-" | "+") signed | power
    power       → suffixed | suffixed "**" signed
    suffixed    → atom | suffixed ( "(" arguments? ")" | "." NAME | "[" expression "]" )
    atom        → NUMBER | TEXT | NAME | "(" expression ")" | "[" items? "]"
    items       → expression | expression "," items
    arguments   → argument | argument "," arguments
    argument    → expression | NAME "=" expression

An argument with a name is followed only by such arguments.  A derivation carries its nesting:
an expression, what a negation or a sign stands in front of, and an exponent are each one level
below what they stand in.
-/

namespace LogPipe.Formula

/-- The nonterminals of the grammar. -/
inductive Symbol where
  | expression
  | disjunction
  | conjunction
  | negation
  | comparison
  | sum
  | product
  | signed
  | power
  | suffixed
  | atom
  | items
  | arguments

/-- What a phrase stands for. -/
@[reducible] def Symbol.Tree : Symbol → Type
  | .items => List Formula
  | .arguments => List Formula × List (String × Formula)
  | _ => Formula

inductive Compares : Token → Comparison → Prop where
  | equal : Compares .equal .eq
  | assign : Compares .assign .eq
  | unequal : Compares .unequal .ne
  | greater : Compares .greater .gt
  | greaterEqual : Compares .greaterEqual .ge
  | less : Compares .less .lt
  | lessEqual : Compares .lessEqual .le

inductive Adds : Token → Arithmetic → Prop where
  | plus : Adds .plus .add
  | minus : Adds .minus .sub

inductive Multiplies : Token → Arithmetic → Prop where
  | star : Multiplies .star .mul
  | slash : Multiplies .slash .div
  | percent : Multiplies .percent .mod

/-- The words that are literals, in any case. -/
inductive LiteralWord : String → Cell → Prop where
  | true : LiteralWord "true" (.bool true)
  | false : LiteralWord "false" (.bool false)
  | null : LiteralWord "null" .null
  | none : LiteralWord "none" .null

/-- Whether an argument names a parameter: only two names do, directly in front of an equals
sign. Elsewhere the sign compares. -/
def StartsKeyword (tokens : List Token) : Prop :=
  ∃ id rest, tokens = .name id :: .assign :: rest ∧ isKeywordName id = true

/-- The phrases of the grammar with their nesting and their trees. `negate` is what a minus
sign makes of its operand. -/
inductive Phrase (negate : Formula → Formula) :
    (symbol : Symbol) → Nat → List Token → symbol.Tree → Prop where
  | expression {n : Nat} {tokens : List Token} {formula : Formula} :
      Phrase negate .disjunction n tokens formula →
      Phrase negate .expression (n + 1) tokens formula
  | conjunction {n : Nat} {tokens : List Token} {formula : Formula} :
      Phrase negate .conjunction n tokens formula → Phrase negate .disjunction n tokens formula
  | either {m n : Nat} {left right : List Token} {first second : Formula} :
      Phrase negate .disjunction m left first → Phrase negate .conjunction n right second →
      Phrase negate .disjunction (max m n) (left ++ .or :: right) (.either first second)
  | negation {n : Nat} {tokens : List Token} {formula : Formula} :
      Phrase negate .negation n tokens formula → Phrase negate .conjunction n tokens formula
  | both {m n : Nat} {left right : List Token} {first second : Formula} :
      Phrase negate .conjunction m left first → Phrase negate .negation n right second →
      Phrase negate .conjunction (max m n) (left ++ .and :: right) (.both first second)
  | comparison {n : Nat} {tokens : List Token} {formula : Formula} :
      Phrase negate .comparison n tokens formula → Phrase negate .negation n tokens formula
  | invert {n : Nat} {tokens : List Token} {formula : Formula} :
      Phrase negate .negation n tokens formula →
      Phrase negate .negation (n + 1) (.not :: tokens) (.invert formula)
  | sum {n : Nat} {tokens : List Token} {formula : Formula} :
      Phrase negate .sum n tokens formula → Phrase negate .comparison n tokens formula
  | compare {m n : Nat} {left right : List Token} {token : Token} {operator : Comparison}
      {first second : Formula} :
      Phrase negate .sum m left first → Compares token operator →
      Phrase negate .sum n right second →
      Phrase negate .comparison (max m n) (left ++ token :: right)
        (.compare operator first second)
  | product {n : Nat} {tokens : List Token} {formula : Formula} :
      Phrase negate .product n tokens formula → Phrase negate .sum n tokens formula
  | add {m n : Nat} {left right : List Token} {token : Token} {operator : Arithmetic}
      {first second : Formula} :
      Phrase negate .sum m left first → Adds token operator →
      Phrase negate .product n right second →
      Phrase negate .sum (max m n) (left ++ token :: right) (.arithmetic operator first second)
  | signed {n : Nat} {tokens : List Token} {formula : Formula} :
      Phrase negate .signed n tokens formula → Phrase negate .product n tokens formula
  | multiply {m n : Nat} {left right : List Token} {token : Token} {operator : Arithmetic}
      {first second : Formula} :
      Phrase negate .product m left first → Multiplies token operator →
      Phrase negate .signed n right second →
      Phrase negate .product (max m n) (left ++ token :: right)
        (.arithmetic operator first second)
  | power {n : Nat} {tokens : List Token} {formula : Formula} :
      Phrase negate .power n tokens formula → Phrase negate .signed n tokens formula
  | minus {n : Nat} {tokens : List Token} {formula : Formula} :
      Phrase negate .signed n tokens formula →
      Phrase negate .signed (n + 1) (.minus :: tokens) (negate formula)
  | plus {n : Nat} {tokens : List Token} {formula : Formula} :
      Phrase negate .signed n tokens formula →
      Phrase negate .signed (n + 1) (.plus :: tokens) formula
  | suffixed {n : Nat} {tokens : List Token} {formula : Formula} :
      Phrase negate .suffixed n tokens formula → Phrase negate .power n tokens formula
  | raise {m n : Nat} {base exponent : List Token} {first second : Formula} :
      Phrase negate .suffixed m base first → Phrase negate .signed n exponent second →
      Phrase negate .power (max m (n + 1)) (base ++ .doubleStar :: exponent)
        (.arithmetic .pow first second)
  | atom {n : Nat} {tokens : List Token} {formula : Formula} :
      Phrase negate .atom n tokens formula → Phrase negate .suffixed n tokens formula
  | callNothing {n : Nat} {tokens : List Token} {callee : Formula} :
      Phrase negate .suffixed n tokens callee →
      Phrase negate .suffixed n (tokens ++ [.openParenthesis, .closeParenthesis])
        (.call callee [] [])
  | call {m n : Nat} {tokens inside : List Token} {callee : Formula}
      {positional : List Formula} {keywords : List (String × Formula)} :
      Phrase negate .suffixed m tokens callee →
      Phrase negate .arguments n inside (positional, keywords) →
      Phrase negate .suffixed (max m n)
        (tokens ++ .openParenthesis :: (inside ++ [.closeParenthesis]))
        (.call callee positional keywords)
  | member {n : Nat} {tokens : List Token} {formula : Formula} {id : String} :
      Phrase negate .suffixed n tokens formula →
      Phrase negate .suffixed n (tokens ++ [.dot, .name id]) (.member formula id)
  | subscript {m n : Nat} {tokens inside : List Token} {formula index : Formula} :
      Phrase negate .suffixed m tokens formula → Phrase negate .expression n inside index →
      Phrase negate .suffixed (max m n) (tokens ++ .openBracket :: (inside ++ [.closeBracket]))
        (.subscript formula index)
  | int {value : Int64} : Phrase negate .atom 0 [.int value] (.literal (.int value))
  | float {x : Float} : Phrase negate .atom 0 [.float x] (.literal (.float x))
  | text {value : String} : Phrase negate .atom 0 [.text value] (.literal (.text value))
  | word {id : String} {value : Cell} :
      LiteralWord (Text.asciiLower id) value → Phrase negate .atom 0 [.name id] (.literal value)
  | name {id : String} :
      (∀ value, ¬LiteralWord (Text.asciiLower id) value) →
      Phrase negate .atom 0 [.name id] (.name id)
  | parentheses {n : Nat} {inside : List Token} {formula : Formula} :
      Phrase negate .expression n inside formula →
      Phrase negate .atom n (.openParenthesis :: (inside ++ [.closeParenthesis])) formula
  | noItems : Phrase negate .atom 0 [.openBracket, .closeBracket] (.list [])
  | list {n : Nat} {inside : List Token} {items : List Formula} :
      Phrase negate .items n inside items →
      Phrase negate .atom n (.openBracket :: (inside ++ [.closeBracket])) (.list items)
  | item {n : Nat} {tokens : List Token} {formula : Formula} :
      Phrase negate .expression n tokens formula → Phrase negate .items n tokens [formula]
  | items {m n : Nat} {tokens later : List Token} {formula : Formula} {formulas : List Formula} :
      Phrase negate .expression m tokens formula → Phrase negate .items n later formulas →
      Phrase negate .items (max m n) (tokens ++ .comma :: later) (formula :: formulas)
  | positional {n : Nat} {tokens : List Token} {formula : Formula} :
      ¬StartsKeyword tokens → Phrase negate .expression n tokens formula →
      Phrase negate .arguments n tokens ([formula], [])
  | keyword {n : Nat} {id : String} {tokens : List Token} {formula : Formula} :
      isKeywordName id = true → Phrase negate .expression n tokens formula →
      Phrase negate .arguments n (.name id :: .assign :: tokens) ([], [(id, formula)])
  | positionalThen {m n : Nat} {tokens later : List Token} {formula : Formula}
      {positional : List Formula} {keywords : List (String × Formula)} :
      ¬StartsKeyword tokens → Phrase negate .expression m tokens formula →
      Phrase negate .arguments n later (positional, keywords) →
      Phrase negate .arguments (max m n) (tokens ++ .comma :: later)
        (formula :: positional, keywords)
  | keywordThen {m n : Nat} {id : String} {tokens later : List Token} {formula : Formula}
      {keywords : List (String × Formula)} :
      isKeywordName id = true → Phrase negate .expression m tokens formula →
      Phrase negate .arguments n later ([], keywords) →
      Phrase negate .arguments (max m n)
        (.name id :: .assign :: (tokens ++ .comma :: later)) ([], (id, formula) :: keywords)

/-- The formula with a minus sign in front, which a number takes itself. -/
def folded : Formula → Formula
  | .literal (.int value) => .literal (.int (-value))
  | .literal (.float x) => .literal (.float (-x))
  | formula => .negate formula

theorem StartsKeyword.append {tokens : List Token} (starts : StartsKeyword tokens)
    (rest : List Token) : StartsKeyword (tokens ++ rest) := by
  obtain ⟨id, later, rfl, named⟩ := starts
  exact ⟨id, later ++ rest, rfl, named⟩

theorem comparison?_eq_some_iff {token : Token} {operator : Comparison} :
    comparison? token = some operator ↔ Compares token operator := by
  constructor
  · intro found
    cases token <;> cases found <;> constructor
  · rintro ⟨⟩ <;> rfl

theorem sumOperator?_eq_some_iff {token : Token} {operator : Arithmetic} :
    sumOperator? token = some operator ↔ Adds token operator := by
  constructor
  · intro found
    cases token <;> cases found <;> constructor
  · rintro ⟨⟩ <;> rfl

theorem productOperator?_eq_some_iff {token : Token} {operator : Arithmetic} :
    productOperator? token = some operator ↔ Multiplies token operator := by
  constructor
  · intro found
    cases token <;> cases found <;> constructor
  · rintro ⟨⟩ <;> rfl

theorem keyword?_eq_some_iff {tokens rest : List Token} {id : String} :
    keyword? tokens = some (id, rest) ↔
      tokens = .name id :: .assign :: rest ∧ isKeywordName id = true := by
  constructor
  · intro found
    rw [keyword?.eq_def] at found
    split at found
    · split at found
      · next named =>
          cases found
          exact ⟨rfl, named⟩
      · cases found
    · cases found
  · rintro ⟨rfl, named⟩
    simp [keyword?, named]

theorem keyword?_eq_none_iff {tokens : List Token} :
    keyword? tokens = none ↔ ¬StartsKeyword tokens := by
  rw [Option.eq_none_iff_forall_not_mem]
  constructor
  · rintro never ⟨id, rest, split, named⟩
    exact never (id, rest) (keyword?_eq_some_iff.mpr ⟨split, named⟩)
  · rintro never ⟨id, rest⟩ found
    obtain ⟨split, named⟩ := keyword?_eq_some_iff.mp found
    exact never ⟨id, rest, split, named⟩

theorem ofName_of_word {id : String} {value : Cell}
    (word : LiteralWord (Text.asciiLower id) value) : ofName id = .literal value := by
  rw [ofName.eq_def]
  generalize Text.asciiLower id = lower at word
  cases word <;> rfl

theorem ofName_of_not_word {id : String}
    (never : ∀ value, ¬LiteralWord (Text.asciiLower id) value) : ofName id = .name id := by
  rw [ofName.eq_def]
  split
  · next lower => exact absurd .true (lower ▸ never (.bool true))
  · next lower => exact absurd .false (lower ▸ never (.bool false))
  · next lower => exact absurd .null (lower ▸ never .null)
  · next lower => exact absurd .none (lower ▸ never .null)
  · rfl

theorem phrase_name {negate : Formula → Formula} (id : String) :
    Phrase negate .atom 0 [.name id] (ofName id) := by
  by_cases never : ∀ value, ¬LiteralWord (Text.asciiLower id) value
  · rw [ofName_of_not_word never]
    exact .name never
  · obtain ⟨value, word⟩ := Classical.not_forall_not.mp never
    rw [ofName_of_word word]
    exact .word word

end LogPipe.Formula
