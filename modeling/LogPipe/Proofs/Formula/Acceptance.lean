import LogPipe.Proofs.Decimal.Unsigned
import LogPipe.Proofs.Formula.Recognition

/-!
# The formulas of a text

The numbers among the tokens of a text have no sign, so a minus sign in front of a number can
always be folded into it.  Then a text is read as a formula exactly when its tokens are an
expression of the grammar that is not nested too deeply.
-/

namespace LogPipe.Formula

open LogPipe.Decimal

/-- Whether the least integer, whose negation does not exist, is not among the tokens. -/
def Negatable (tokens : List Token) : Prop :=
  ∀ token ∈ tokens, token ≠ .int Int64.minValue

section Tokens

/-- A token that is no negative number. -/
def Token.Signless : Token → Prop
  | .int value => 0 ≤ value.toInt
  | .float x => Unsigned x.toModel.unpack
  | _ => True

/-- The characters of a number start with the one it was found at. -/
theorem splitNumber_digits (isFloat : Bool) (c : Char) (rest : List Char) :
    (splitNumber isFloat (c :: rest)).2.1 = [] ∨
      ∃ digits, (splitNumber isFloat (c :: rest)).2.1 = c :: digits := by
  cases rest with
  | nil =>
      rw [splitNumber]
      split
      · exact .inr ⟨[], rfl⟩
      · exact .inl rfl
  | cons d rest =>
      rw [splitNumber]
      split
      · exact .inr ⟨_, rfl⟩
      · split
        · exact .inr ⟨_, rfl⟩
        · split
          · exact .inr ⟨_, rfl⟩
          · exact .inl rfl

theorem numberToken_signless {c : Char} {rest : List Char} {token : Token}
    (starts : StartsNumber c)
    (made : numberToken (splitNumber false (c :: rest)).1 (splitNumber false (c :: rest)).2.1 =
      .ok token) : token.Signless := by
  rw [numberToken] at made
  rcases splitNumber_digits false c rest with none | ⟨digits, same⟩
  · rw [none] at made
    split at made
    · next value found =>
        split at found
        · cases found
        · cases found
    · cases made
  · rw [same] at made
    split at made
    · next value found =>
        cases made
        split at found
        · cases found
        · exact starts.nonneg found
    · split at made
      · next x found =>
          cases made
          exact starts.unsigned found
      · cases made

theorem symbol?_signless {c : Char} {next : Option Char} {token : Token} {width : Nat}
    (found : symbol? c next = some (token, width)) : token.Signless := by
  rw [symbol?.eq_def] at found
  split at found <;> cases found <;> trivial

theorem wordToken_signless (word : List Char) : (wordToken word).Signless := by
  rw [wordToken]
  split <;> trivial

theorem nextToken_signless {previous : Option Token} {position : Nat} {c : Char}
    {rest after : List Char} {token : Token}
    (next : nextToken previous position c rest = .ok (token, after)) : token.Signless := by
  rw [nextToken] at next
  split at next
  · next number =>
      have starts : StartsNumber c := by
        simp only [Bool.or_eq_true, Bool.and_eq_true, beq_iff_eq] at number
        exact number.imp_right fun fraction => fraction.1.1
      cases made : numberToken (splitNumber false (c :: rest)).1
          (splitNumber false (c :: rest)).2.1 with
      | error fault =>
          simp only [made] at next
          cases next
      | ok found =>
          simp only [made] at next
          cases next
          exact numberToken_signless starts made
  · split at next
    · split at next
      · cases next
        trivial
      · cases next
    · split at next
      · next found =>
          cases next
          exact symbol?_signless found
      · split at next
        · cases next
          exact wordToken_signless _
        · cases next

/-- No token of a text is a negative number. -/
theorem signless_tokenizeFrom {previous : Option Token} {position rounds : Nat}
    {text : List Char} {tokens : List Token}
    (read : tokenizeFrom previous position text rounds = .ok tokens) :
    ∀ token ∈ tokens, token.Signless := by
  induction rounds generalizing previous position text tokens with
  | zero =>
      cases read
      exact List.forall_mem_nil _
  | succ rounds induction =>
      cases text with
      | nil =>
          cases read
          exact List.forall_mem_nil _
      | cons c rest =>
          rw [tokenizeFrom] at read
          split at read
          · exact induction read
          · split at read
            · cases read
            · next token after next =>
                simp only at read
                split at read
                · cases read
                · next later laterRead =>
                    cases read
                    exact List.forall_mem_cons.mpr ⟨nextToken_signless next, induction laterRead⟩

theorem negatable_tokenizeFrom {previous : Option Token} {position rounds : Nat}
    {text : List Char} {tokens : List Token}
    (read : tokenizeFrom previous position text rounds = .ok tokens) : Negatable tokens := by
  rintro token member rfl
  have signless : 0 ≤ Int64.minValue.toInt := signless_tokenizeFrom read _ member
  exact absurd signless (by decide)

end Tokens

namespace Negatable

variable {token : Token} {front back : List Token}

theorem left (negatable : Negatable (front ++ back)) : Negatable front :=
  (List.forall_mem_append.mp negatable).1

theorem right (negatable : Negatable (front ++ token :: back)) : Negatable back :=
  (List.forall_mem_cons.mp (List.forall_mem_append.mp negatable).2).2

theorem tail (negatable : Negatable (token :: back)) : Negatable back :=
  (List.forall_mem_cons.mp negatable).2

end Negatable

/-- A formula other than the least integer. -/
def NotLeast : Formula → Prop
  | .literal (.int value) => value ≠ Int64.minValue
  | _ => True

/-- What is known of the tree of a phrase whose numbers can be negated. -/
def Symbol.NotLeast : (symbol : Symbol) → symbol.Tree → Prop
  | .items, _ | .arguments, _ => True
  | .expression, formula | .disjunction, formula | .conjunction, formula | .negation, formula
  | .comparison, formula | .sum, formula | .product, formula | .signed, formula
  | .power, formula | .suffixed, formula | .atom, formula => Formula.NotLeast formula

/-- What a minus sign makes of its operand matters only for operands that occur. -/
theorem Phrase.transfer {first second : Formula → Formula}
    (agree : ∀ formula, NotLeast formula → first formula = second formula)
    (keeps : ∀ formula, NotLeast formula → NotLeast (first formula))
    {symbol : Symbol} {n : Nat} {tokens : List Token} {tree : symbol.Tree}
    (derived : Phrase first symbol n tokens tree) (negatable : Negatable tokens) :
    Phrase second symbol n tokens tree ∧ symbol.NotLeast tree := by
  induction derived with
  | expression _ induction =>
      exact ⟨.expression (induction negatable).1, (induction negatable).2⟩
  | conjunction _ induction =>
      exact ⟨.conjunction (induction negatable).1, (induction negatable).2⟩
  | either _ _ left right =>
      exact ⟨.either (left negatable.left).1 (right negatable.right).1, trivial⟩
  | negation _ induction =>
      exact ⟨.negation (induction negatable).1, (induction negatable).2⟩
  | both _ _ left right =>
      exact ⟨.both (left negatable.left).1 (right negatable.right).1, trivial⟩
  | comparison _ induction =>
      exact ⟨.comparison (induction negatable).1, (induction negatable).2⟩
  | invert _ induction => exact ⟨.invert (induction negatable.tail).1, trivial⟩
  | sum _ induction => exact ⟨.sum (induction negatable).1, (induction negatable).2⟩
  | compare _ compares _ left right =>
      exact ⟨.compare (left negatable.left).1 compares (right negatable.right).1, trivial⟩
  | product _ induction => exact ⟨.product (induction negatable).1, (induction negatable).2⟩
  | add _ adds _ left right =>
      exact ⟨.add (left negatable.left).1 adds (right negatable.right).1, trivial⟩
  | signed _ induction => exact ⟨.signed (induction negatable).1, (induction negatable).2⟩
  | multiply _ multiplies _ left right =>
      exact ⟨.multiply (left negatable.left).1 multiplies (right negatable.right).1, trivial⟩
  | power _ induction => exact ⟨.power (induction negatable).1, (induction negatable).2⟩
  | minus _ induction =>
      obtain ⟨derived, notLeast⟩ := induction negatable.tail
      refine ⟨?_, keeps _ notLeast⟩
      rw [agree _ notLeast]
      exact .minus derived
  | plus _ induction =>
      exact ⟨.plus (induction negatable.tail).1, (induction negatable.tail).2⟩
  | suffixed _ induction => exact ⟨.suffixed (induction negatable).1, (induction negatable).2⟩
  | raise _ _ left right =>
      exact ⟨.raise (left negatable.left).1 (right negatable.right).1, trivial⟩
  | atom _ induction => exact ⟨.atom (induction negatable).1, (induction negatable).2⟩
  | callNothing _ induction => exact ⟨.callNothing (induction negatable.left).1, trivial⟩
  | call _ _ left right =>
      exact ⟨.call (left negatable.left).1 (right negatable.right.left).1, trivial⟩
  | member _ induction => exact ⟨.member (induction negatable.left).1, trivial⟩
  | subscript _ _ left right =>
      exact ⟨.subscript (left negatable.left).1 (right negatable.right.left).1, trivial⟩
  | @int value =>
      refine ⟨.int, ?_⟩
      rintro rfl
      exact negatable _ List.mem_cons_self rfl
  | float => exact ⟨.float, trivial⟩
  | text => exact ⟨.text, trivial⟩
  | word word =>
      refine ⟨.word word, ?_⟩
      generalize Text.asciiLower _ = lower at word
      cases word <;> trivial
  | name never => exact ⟨.name never, trivial⟩
  | parentheses _ induction =>
      exact ⟨.parentheses (induction negatable.tail.left).1, (induction negatable.tail.left).2⟩
  | noItems => exact ⟨.noItems, trivial⟩
  | list _ induction => exact ⟨.list (induction negatable.tail.left).1, trivial⟩
  | item _ induction => exact ⟨.item (induction negatable).1, trivial⟩
  | items _ _ left right =>
      exact ⟨.items (left negatable.left).1 (right negatable.right).1, trivial⟩
  | positional unnamed _ induction =>
      exact ⟨.positional unnamed (induction negatable).1, trivial⟩
  | keyword named _ induction =>
      exact ⟨.keyword named (induction negatable.tail.tail).1, trivial⟩
  | positionalThen unnamed _ _ left right =>
      exact ⟨.positionalThen unnamed (left negatable.left).1 (right negatable.right).1, trivial⟩
  | keywordThen named _ _ left right =>
      exact ⟨.keywordThen named (left negatable.tail.tail.left).1
        (right negatable.tail.tail.right).1, trivial⟩

theorem negated_eq_folded {formula : Formula} (notLeast : NotLeast formula) :
    negated formula = folded formula := by
  rw [negated.eq_def]
  split
  · next value =>
      have other : (value == Int64.minValue) = false := beq_eq_false_iff_ne.mpr notLeast
      simp [other, folded]
  · rfl
  · next notInt notFloat =>
      rw [folded.eq_def]
      split
      · exact absurd rfl (notInt _)
      · exact absurd rfl (notFloat _)
      · rfl

theorem notLeast_folded {formula : Formula} (notLeast : NotLeast formula) :
    NotLeast (folded formula) := by
  rw [folded.eq_def]
  split
  · next value =>
      intro negated
      have least : value = Int64.minValue := by
        rw [← @Int64.neg_neg value, negated]
        decide
      exact notLeast least
  · trivial
  · trivial

theorem phrase_folded_iff {symbol : Symbol} {n : Nat} {tokens : List Token} {tree : symbol.Tree}
    (negatable : Negatable tokens) :
    Phrase folded symbol n tokens tree ↔ Phrase negated symbol n tokens tree := by
  constructor
  · intro derived
    exact (derived.transfer (fun _ notLeast => (negated_eq_folded notLeast).symm)
      (fun _ notLeast => notLeast_folded notLeast) negatable).1
  · intro derived
    refine (derived.transfer (fun _ notLeast => negated_eq_folded notLeast) ?_ negatable).1
    intro formula notLeast
    rw [negated_eq_folded notLeast]
    exact notLeast_folded notLeast

theorem ofTokens_eq_ok_iff {tokens : List Token} {formula : Formula} :
    ofTokens tokens = .ok formula ↔
      ∃ nesting ≤ maxDepth, Phrase negated .expression nesting tokens formula := by
  rw [ofTokens]
  constructor
  · intro read
    split at read
    · cases read
    · next found =>
        cases read
        obtain ⟨phrase, n, rfl, low, derived⟩ := (sound_deeper maxDepth).expression found
        exact ⟨n, low, by rwa [List.append_nil]⟩
    · cases read
  · rintro ⟨nesting, low, derived⟩
    have read := derived.recognized low [] stops_nil
    rw [List.append_nil] at read
    rw [read]

theorem Phrase.unique {m n : Nat} {tokens : List Token} {first second : Formula}
    (firstDerived : Phrase negated .expression m tokens first)
    (secondDerived : Phrase negated .expression n tokens second) : first = second := by
  have firstRead := firstDerived.recognized (Nat.le_max_left m n) [] stops_nil
  have secondRead := secondDerived.recognized (Nat.le_max_right m n) [] stops_nil
  rw [firstRead] at secondRead
  cases secondRead
  rfl

/-- A text is read as a formula exactly when its tokens are an expression of the grammar that
is not nested too deeply, and no other formula is a tree of these tokens. -/
theorem ofText_eq_ok_iff_phrase {text : String} {tokens : List Token}
    (tokenized : tokenize text = .ok tokens) :
    (∀ formula, ofText text = .ok formula ↔
      ∃ nesting ≤ maxDepth, Phrase folded .expression nesting tokens formula) ∧
    ∀ m n first second, Phrase folded .expression m tokens first →
      Phrase folded .expression n tokens second → first = second := by
  have negatable : Negatable tokens := negatable_tokenizeFrom tokenized
  simp only [phrase_folded_iff negatable]
  refine ⟨fun formula => ?_, fun m n first second => Phrase.unique⟩
  rw [ofText, tokenized]
  exact ofTokens_eq_ok_iff

theorem notLiteral_of_length {id : String} (short : (Text.asciiLower id).length < 4)
    (value : Cell) : ¬LiteralWord (Text.asciiLower id) value := by
  generalize Text.asciiLower id = lower at short
  rintro ⟨⟩ <;> exact absurd short (by decide)

/-- A power binds tighter than the sign on its left. -/
theorem ofText_eq_ok_iff_phrase_signed_power :
    tokenize "-a**b" = .ok [.minus, .name "a", .doubleStar, .name "b"] ∧
      ofText "-a**b" = .ok (.negate (.arithmetic .pow (.name "a") (.name "b"))) := by
  have tokenized : tokenize "-a**b" = .ok [.minus, .name "a", .doubleStar, .name "b"] := by
    rfl
  have name (id : String) (short : (Text.asciiLower id).length < 4) :
      Phrase folded .suffixed 0 [.name id] (.name id) :=
    .atom (.name (notLiteral_of_length short))
  have power := Phrase.raise (name "a" (by decide)) (.power (.suffixed (name "b" (by decide))))
  have whole := Phrase.expression (.conjunction (.negation (.comparison (.sum (.product
    (.signed (.minus (.power power))))))))
  exact ⟨tokenized, ((ofText_eq_ok_iff_phrase tokenized).1 _).mpr ⟨3, by decide, whole⟩⟩

end LogPipe.Formula
