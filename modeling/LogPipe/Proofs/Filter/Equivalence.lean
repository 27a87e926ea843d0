import LogPipe.Proofs.Filter.Meaning
import Mathlib.Data.List.Induction

/-!
# Filters that keep the same rows

Membership in a list can be spelled as a disjunction of comparisons.  The two are not equal in
every row: a missing cell is in no list, but comparing it is unknown.  Conjunction and
disjunction are true only because of parts that are true, so they never turn that difference
into a row that is kept.
-/

namespace LogPipe

theorem kleeneAnd_eq_some_true_iff {left right : Option Bool} :
    kleeneAnd left right = some true ↔ left = some true ∧ right = some true := by
  rcases left with _ | (_ | _) <;> rcases right with _ | (_ | _) <;> decide

theorem kleeneOr_eq_some_true_iff {left right : Option Bool} :
    kleeneOr left right = some true ↔ left = some true ∨ right = some true := by
  rcases left with _ | (_ | _) <;> rcases right with _ | (_ | _) <;> decide

end LogPipe

namespace LogPipe.Filter

section Refusals

variable (names : List String)

/-- The parts of a filter that keywords join, which have to be predicates. -/
def joined : Filter → List Filter
  | .both left right | .either left right => left :: right :: (left.joined ++ right.joined)
  | .compare _ left right => left.joined ++ right.joined
  | _ => []

/-- A fault, seen for each text that it may quote, that a filter can have: a column that is not
there, or one of the given parts that is a literal but no truth value. -/
inductive Blames (parts : List Filter) : (String → Option FilterError) → Prop where
  | nothing : Blames parts fun _ => none
  | column {name : String} (absent : name ∉ names) :
      Blames parts fun _ => some (.missingColumn name)
  | literal {value : Cell} (listed : .literal value ∈ parts)
      (notTruth : ∀ truth, value ≠ .bool truth) :
      Blames parts fun clause => some (.malformed clause (.notPredicate value.written))

variable {names} {parts more : List Filter} {first second : String → Option FilterError}

namespace Blames

theorem mono (blames : Blames names parts first) (subset : parts ⊆ more) :
    Blames names more first := by
  cases blames with
  | nothing => exact .nothing
  | column absent => exact .column absent
  | literal listed notTruth => exact .literal (subset listed) notTruth

theorem or (blames : Blames names parts first) (others : Blames names parts second) :
    Blames names parts fun clause => (first clause).or (second clause) := by
  cases blames with
  | nothing => exact others
  | column absent => exact .column absent
  | literal listed notTruth => exact .literal listed notTruth

end Blames

theorem columnFault_blames (name : String) :
    Blames names parts fun _ => columnFault names name := by
  by_cases listed : name ∈ names
  · simp only [columnFault, if_pos listed]
    exact .nothing
  · simp only [columnFault, if_neg listed]
    exact .column listed

theorem literalFault_blames {filter : Filter} (listed : filter ∈ parts) :
    Blames names parts fun clause => filter.literalFault clause := by
  cases filter with
  | literal value =>
      cases value with
      | bool truth => exact .nothing
      | missing | int | float | time | text | list => exact .literal listed (by simp)
  | column | member | both | either | compare => exact .nothing

theorem operandFault_blames (filter : Filter) :
    Blames names filter.joined fun clause => filter.operandFault clause names := by
  induction filter with
  | column name => exact columnFault_blames name
  | literal value => exact .nothing
  | member field values => exact columnFault_blames field
  | both left right leftBlames rightBlames | either left right leftBlames rightBlames =>
      have leftParts : left.joined ⊆ left :: right :: (left.joined ++ right.joined) := by grind
      have rightParts : right.joined ⊆ left :: right :: (left.joined ++ right.joined) := by grind
      exact ((leftBlames.mono leftParts).or (literalFault_blames (by simp))).or
        ((rightBlames.mono rightParts).or (literalFault_blames (by simp)))
  | compare operator left right leftBlames rightBlames =>
      exact (leftBlames.mono (List.subset_append_left _ _)).or
        (rightBlames.mono (List.subset_append_right _ _))

/-- A filter is refused for a missing column, or for a literal in the place of a predicate. -/
theorem fault_blames (filter : Filter) :
    Blames names (filter :: filter.joined) fun clause => filter.fault clause names :=
  ((operandFault_blames filter).mono (List.subset_cons_self _ _)).or
    (literalFault_blames List.mem_cons_self)

end Refusals

section Membership

/-- A column compared with one literal after the other, joined from the left as they are read. -/
def equalities (field : String) (first : Cell) (others : List Cell) : Filter :=
  others.foldl
    (fun joined value => .either joined (.compare .eq (.column field) (.literal value)))
    (.compare .eq (.column field) (.literal first))

/-- A filter with each list that only keywords join to the rest spelled as comparisons. -/
def spellMembers : Filter → Filter
  | .both left right => .both left.spellMembers right.spellMembers
  | .either left right => .either left.spellMembers right.spellMembers
  | .member field (first :: others) => equalities field first others
  | filter => filter

theorem equalities_concat (field : String) (first last : Cell) (others : List Cell) :
    equalities field first (others ++ [last]) =
      .either (equalities field first others) (.compare .eq (.column field) (.literal last)) := by
  simp only [equalities, List.foldl_append, List.foldl_cons, List.foldl_nil]

theorem literalFault_equalities (clause field : String) (first : Cell) (others : List Cell) :
    (equalities field first others).literalFault clause = none := by
  induction others using List.reverseRecOn with
  | nil => rfl
  | append_singleton others last induction =>
      rw [equalities_concat]
      rfl

theorem operandFault_equalities (clause : String) (names : List String) (field : String)
    (first : Cell) (others : List Cell) :
    (equalities field first others).operandFault clause names = columnFault names field := by
  induction others using List.reverseRecOn with
  | nil => simp [equalities, operandFault]
  | append_singleton others last induction =>
      rw [equalities_concat, operandFault, induction, literalFault_equalities]
      simp [operandFault, literalFault]

theorem literalFault_spellMembers (clause : String) (filter : Filter) :
    filter.spellMembers.literalFault clause = filter.literalFault clause := by
  cases filter with
  | member field values =>
      cases values with
      | nil => rfl
      | cons first others => exact literalFault_equalities clause field first others
  | column | literal | both | either | compare => rfl

theorem operandFault_spellMembers (clause : String) (names : List String) (filter : Filter) :
    filter.spellMembers.operandFault clause names = filter.operandFault clause names := by
  induction filter with
  | member field values =>
      cases values with
      | nil => rfl
      | cons first others => exact operandFault_equalities clause names field first others
  | both left right leftSame rightSame | either left right leftSame rightSame =>
      simp only [spellMembers, operandFault, leftSame, rightSame, literalFault_spellMembers]
  | column | literal | compare => rfl

theorem fault_spellMembers (clause : String) (names : List String) (filter : Filter) :
    filter.spellMembers.fault clause names = filter.fault clause names := by
  rw [fault, fault, operandFault_spellMembers, literalFault_spellMembers]

variable (table : Table) (row : Nat)

theorem meaning_equalities (field : String) (first : Cell) (others : List Cell) :
    (equalities field first others).meaning table row = some true ↔
      ∃ value ∈ first :: others,
        Comparison.eq.apply (rowCell table row field) value = some true := by
  induction others using List.reverseRecOn with
  | nil => simp [equalities, meaning, operandCell]
  | append_singleton others last induction =>
      rw [equalities_concat, meaning, kleeneOr_eq_some_true_iff, induction]
      simp only [meaning, operandCell, List.mem_cons, List.mem_append, List.not_mem_nil, or_false,
        ← or_assoc, or_and_right, exists_or, exists_eq_left]

/-- Spelling the lists of a filter can turn a part from false to unknown, and does not change
whether the filter is true. -/
theorem meaning_spellMembers (filter : Filter) :
    filter.spellMembers.meaning table row = some true ↔
      filter.meaning table row = some true := by
  induction filter with
  | member field values =>
      cases values with
      | nil => rfl
      | cons first others =>
          rw [spellMembers, meaning_equalities]
          simp [meaning]
  | both left right leftSame rightSame =>
      simp only [spellMembers, meaning, kleeneAnd_eq_some_true_iff, leftSame, rightSame]
  | either left right leftSame rightSame =>
      simp only [spellMembers, meaning, kleeneOr_eq_some_true_iff, leftSame, rightSame]
  | column | literal | compare => rfl

end Membership

end LogPipe.Filter

namespace LogPipe.FilterClause

open LogPipe.Filter LogPipe.Query

/-- Filters that are refused alike and true in the same rows have the same mask. -/
theorem mask_congr {table : Table} (wellFormed : table.WellFormed) {text : String}
    {filter other : Filter} (fault : other.fault text table.names = filter.fault text table.names)
    (meaning : ∀ row, other.meaning table row = some true ↔ filter.meaning table row = some true) :
    mask ⟨text, some other⟩ table = mask ⟨text, some filter⟩ table := by
  have answers := mask_answers wellFormed text filter
  have others := mask_answers wellFormed text other
  rw [fault] at others
  cases foretold : filter.fault text table.names with
  | some error =>
      rw [foretold] at answers others
      exact Eq.trans others (Eq.symm answers)
  | none =>
      rw [foretold] at answers others
      obtain ⟨kept, succeeded, rfl⟩ := answers
      obtain ⟨otherKept, otherSucceeded, rfl⟩ := others
      simp only [succeeded, otherSucceeded, meaning]

/-- A filter and the filter with its lists spelled as comparisons have the same mask on every
well-formed table, or both name the same column that the table does not have, or the same
literal, other than a truth value, that stands where a predicate is needed.  The texts that the
two were read from show only in that last error. -/
theorem mask_spellMembers {table : Table} (wellFormed : table.WellFormed) (filter : Filter)
    (text spelling : String) :
    (∃ kept, mask ⟨text, some filter⟩ table = .ok kept ∧
        mask ⟨spelling, some filter.spellMembers⟩ table = .ok kept) ∨
      (∃ name, name ∉ table.names ∧
        mask ⟨text, some filter⟩ table = .error (.missingColumn name) ∧
        mask ⟨spelling, some filter.spellMembers⟩ table = .error (.missingColumn name)) ∨
      ∃ value, .literal value ∈ filter :: filter.joined ∧ (∀ truth, value ≠ .bool truth) ∧
        mask ⟨text, some filter⟩ table =
          .error (.malformed text (.notPredicate value.written)) ∧
        mask ⟨spelling, some filter.spellMembers⟩ table =
          .error (.malformed spelling (.notPredicate value.written)) := by
  have answers := mask_answers wellFormed text filter
  have others := mask_answers wellFormed spelling filter
  rw [← mask_congr wellFormed (fault_spellMembers spelling table.names filter)
    fun row => meaning_spellMembers table row filter] at others
  have blames : Blames table.names (filter :: filter.joined)
      fun clause => filter.fault clause table.names := fault_blames filter
  generalize foretold : (fun clause => filter.fault clause table.names) = fault at blames
  have atText : filter.fault text table.names = fault text := congrFun foretold text
  have atSpelling : filter.fault spelling table.names = fault spelling :=
    congrFun foretold spelling
  rw [atText] at answers
  rw [atSpelling] at others
  cases blames with
  | nothing =>
      obtain ⟨kept, succeeded, rfl⟩ := answers
      obtain ⟨otherKept, otherSucceeded, rfl⟩ := others
      exact .inl ⟨_, succeeded, otherSucceeded⟩
  | @column name absent => exact .inr (.inl ⟨name, absent, answers, others⟩)
  | @literal value listed notTruth =>
      exact .inr (.inr ⟨value, listed, notTruth, answers, others⟩)

/-- The filter `status IN (200, 404) AND (host IN ("a") OR status IN (200))`. -/
def sampleMembers : Filter :=
  .both (.member "status" [.int 200, .int 404])
    (.either (.member "host" [.text "a"]) (.member "status" [.int 200]))

/-- Rows without a status are dropped both ways. -/
theorem mask_spellMembers_sample :
    sampleTable.WellFormed ∧
      mask ⟨"", some sampleMembers⟩ sampleTable = .ok [true, false, false, false] ∧
      mask ⟨"", some sampleMembers.spellMembers⟩ sampleTable =
        .ok [true, false, false, false] := by
  have wellFormed : sampleTable.WellFormed := by decide
  have kept : mask ⟨"", some sampleMembers⟩ sampleTable = .ok [true, false, false, false] := rfl
  refine ⟨wellFormed, kept, ?_⟩
  obtain ⟨_, same, spelled⟩ | ⟨_, -, failed, -⟩ | ⟨_, -, -, failed, -⟩ :=
    mask_spellMembers wellFormed sampleMembers "" ""
  · rw [spelled, ← same, kept]
  · rw [kept] at failed
    cases failed
  · rw [kept] at failed
    cases failed

/-- Below a comparison the spelling shows: a row without a status is in no list, and no
comparison with it is false. -/
example :
    let listed : Filter := .compare .eq (.member "status" [.int 200]) (.literal (.bool false))
    let spelled : Filter :=
      .compare .eq (equalities "status" (.int 200) []) (.literal (.bool false))
    mask ⟨"", some listed⟩ sampleTable = .ok [false, true, true, true] ∧
      mask ⟨"", some spelled⟩ sampleTable = .ok [false, false, true, false] :=
  ⟨rfl, rfl⟩

/-- A literal is refused as a predicate before the next column is looked up. -/
theorem mask_spellMembers_refuses_literal :
    let tokens : List Token := [⟨.number, "5", 0⟩, ⟨.identifier, "AND", 2⟩, ⟨.identifier, "x", 6⟩,
      ⟨.identifier, "IN", 8⟩, ⟨.punctuation, "(", 11⟩, ⟨.number, "1", 12⟩, ⟨.punctuation, ")", 13⟩]
    let filter : Filter := .both (.literal (.int 5)) (.member "x" [.int 1])
    Filter.ofTokens tokens = .ok filter ∧ sampleTable.WellFormed ∧
      ¬((∃ kept, mask ⟨"5 AND x IN (1)", some filter⟩ sampleTable = .ok kept ∧
          mask ⟨"5 AND x IN (1)", some filter.spellMembers⟩ sampleTable = .ok kept) ∨
        ∃ name other,
          mask ⟨"5 AND x IN (1)", some filter⟩ sampleTable = .error (.missingColumn name) ∧
          mask ⟨"5 AND x IN (1)", some filter.spellMembers⟩ sampleTable =
            .error (.missingColumn other)) := by
  intro tokens filter
  have read : Filter.ofTokens tokens = .ok filter := by
    obtain ⟨_, done, rfl⟩ := Except.exists_ok_of_toOption
      (show (Filter.ofTokens tokens).toOption.map id = some filter by decide +kernel)
    exact done
  have refused : mask ⟨"5 AND x IN (1)", some filter⟩ sampleTable =
      .error (.malformed "5 AND x IN (1)" (.notPredicate "5")) := rfl
  refine ⟨read, by decide, ?_⟩
  rintro (⟨_, kept, -⟩ | ⟨_, _, missing, -⟩)
  · rw [refused] at kept
    cases kept
  · rw [refused] at missing
    cases missing

end LogPipe.FilterClause
