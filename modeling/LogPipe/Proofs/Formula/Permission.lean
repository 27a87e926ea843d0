import LogPipe.Formula.Basic
import LogPipe.Proofs.Except

/-!
# Permitted formulas

What the check before an evaluation lets through is described by the nodes of a formula,
wherever they stand: in operands, in items of lists, in positional and in keyword
arguments.  Names that stand for values are columns, callees are bare names of functions,
and no node is a member or a subscript.
-/

namespace LogPipe

namespace Formula

/-- What a node is there for: its value is wanted, or it is called. -/
inductive Role where
  | value
  | callee
deriving DecidableEq, Repr

mutual

/-- The nodes below a formula with their roles, from left to right. -/
def properNodes : Formula → List (Role × Formula)
  | .literal _ => []
  | .name _ => []
  | .negate operand => (.value, operand) :: properNodes operand
  | .invert operand => (.value, operand) :: properNodes operand
  | .arithmetic _ left right =>
      ((.value, left) :: properNodes left) ++ ((.value, right) :: properNodes right)
  | .compare _ left right =>
      ((.value, left) :: properNodes left) ++ ((.value, right) :: properNodes right)
  | .both left right => ((.value, left) :: properNodes left) ++ ((.value, right) :: properNodes right)
  | .either left right => ((.value, left) :: properNodes left) ++ ((.value, right) :: properNodes right)
  | .call callee arguments keywords =>
      ((.callee, callee) :: properNodes callee) ++ (nodesOfAll arguments ++ nodesOfKeywords keywords)
  | .member value _ => (.value, value) :: properNodes value
  | .subscript value index =>
      ((.value, value) :: properNodes value) ++ ((.value, index) :: properNodes index)
  | .list items => nodesOfAll items

/-- The nodes of formulas whose values are wanted. -/
def nodesOfAll : List Formula → List (Role × Formula)
  | [] => []
  | formula :: formulas => ((.value, formula) :: properNodes formula) ++ nodesOfAll formulas

/-- The nodes of the values of keyword arguments. -/
def nodesOfKeywords : List (String × Formula) → List (Role × Formula)
  | [] => []
  | (_, value) :: keywords => ((.value, value) :: properNodes value) ++ nodesOfKeywords keywords

end

/-- All nodes of a formula whose value is wanted, the formula itself first. -/
def nodes (formula : Formula) : List (Role × Formula) :=
  (.value, formula) :: properNodes formula

/-- The formulas that may be evaluated over a table. -/
structure Admitted (table : Table) (formula : Formula) : Prop where
  names : ∀ id, (.value, .name id) ∈ formula.nodes → table.hasColumn id = true
  callees : ∀ role callee arguments keywords,
    (role, .call callee arguments keywords) ∈ formula.nodes →
      ∃ function ∈ Builtin.all, callee = .name function.name
  noMember : ∀ role value id, (role, .member value id) ∉ formula.nodes
  noSubscript : ∀ role value index, (role, .subscript value index) ∉ formula.nodes

/-- What is asked of a single node. -/
def Admissible (table : Table) (node : Role × Formula) : Prop :=
  match node.2 with
  | .name id => node.1 = .value → table.hasColumn id = true
  | .call callee _ _ => ∃ function ∈ Builtin.all, callee = .name function.name
  | .member _ _ => False
  | .subscript _ _ => False
  | _ => True

theorem admitted_iff {table : Table} {formula : Formula} :
    formula.Admitted table ↔ ∀ node ∈ formula.nodes, Admissible table node := by
  constructor
  · rintro ⟨names, callees, noMember, noSubscript⟩ ⟨role, node⟩ member
    cases node with
    | name id =>
        rintro ⟨⟩
        exact names id member
    | call callee arguments keywords => exact callees role callee arguments keywords member
    | member value id => exact noMember role value id member
    | subscript value index => exact noSubscript role value index member
    | _ => trivial
  · intro each
    exact
      { names := fun id member => each _ member rfl
        callees := fun role callee arguments keywords member => each _ member
        noMember := fun role value id member => each _ member
        noSubscript := fun role value index member => each _ member }

theorem mem_all (function : Builtin) : function ∈ Builtin.all := by
  cases function <;> decide

/-- A function is found under its name and under no other one. -/
theorem ofName?_eq_some_iff {id : String} {function : Builtin} :
    Builtin.ofName? id = some function ↔ function.name = id := by
  constructor
  · intro found
    simpa using List.find?_some found
  · rintro rfl
    cases function <;> decide

theorem calledFunction_eq_ok_iff {callee : Formula} {function : Builtin} :
    calledFunction callee = .ok function ↔ callee = .name function.name := by
  constructor
  · intro called
    cases callee with
    | name id =>
        rw [calledFunction] at called
        cases found : Builtin.ofName? id with
        | none =>
            rw [found] at called
            cases called
        | some other =>
            rw [found] at called
            cases called
            rw [ofName?_eq_some_iff.mp found]
    | _ => cases called
  · rintro rfl
    rw [calledFunction, ofName?_eq_some_iff.mpr rfl]

theorem permitName_eq_ok_iff {table : Table} {id : String} :
    permitName table id = .ok () ↔ table.hasColumn id = true := by
  rw [permitName]
  split
  · next has => exact ⟨fun _ => has, fun _ => rfl⟩
  · next hasNot =>
      split
      · exact ⟨fun permitted => (nomatch permitted), fun has => absurd has hasNot⟩
      · exact ⟨fun permitted => (nomatch permitted), fun has => absurd has hasNot⟩

/-- Two checks pass one after the other exactly when both pass. -/
theorem both_ok_iff {first second : Except FormulaError Unit} :
    (first >>= fun _ => second) = .ok () ↔ first = .ok () ∧ second = .ok () := by
  rw [Except.bind_eq_ok_iff]
  constructor
  · rintro ⟨⟨⟩, firstOk, secondOk⟩
    exact ⟨firstOk, secondOk⟩
  · rintro ⟨firstOk, secondOk⟩
    exact ⟨(), firstOk, secondOk⟩

section

variable (table : Table)

mutual

/-- The check of a formula passes exactly when all of its nodes are admissible. -/
theorem permit_eq_ok_iff (formula : Formula) :
    permit table formula = .ok () ↔ ∀ node ∈ formula.nodes, Admissible table node := by
  rw [nodes, List.forall_mem_cons]
  cases formula with
  | literal value => simp [permit, properNodes, Admissible]
  | name id => simp [permit, properNodes, Admissible, permitName_eq_ok_iff]
  | negate operand | invert operand =>
      have inner := permit_eq_ok_iff operand
      rw [permit, inner, properNodes]
      exact (and_iff_right trivial).symm
  | arithmetic operator left right | compare operator left right
  | both left right | either left right =>
      have leftInner := permit_eq_ok_iff left
      have rightInner := permit_eq_ok_iff right
      rw [permit, both_ok_iff, leftInner, rightInner, properNodes, List.forall_mem_append]
      exact (and_iff_right trivial).symm
  | call callee arguments keywords =>
      have positional := permitAll_eq_ok_iff arguments
      have named := permitKeywords_eq_ok_iff keywords
      rw [permit, Except.bind_eq_ok_iff, properNodes, List.forall_mem_append,
        List.forall_mem_append]
      constructor
      · rintro ⟨function, called, passed⟩
        have bare := calledFunction_eq_ok_iff.mp called
        obtain ⟨positionalOk, namedOk⟩ := both_ok_iff.mp passed
        refine ⟨⟨function, mem_all function, bare⟩, ?_, positional.mp positionalOk,
          named.mp namedOk⟩
        -- A bare name that is called has no nodes below it and need not be a column.
        rw [bare]
        intro node member
        cases List.mem_singleton.mp member
        exact nofun
      · rintro ⟨⟨function, -, bare⟩, -, positionalOk, namedOk⟩
        exact ⟨function, calledFunction_eq_ok_iff.mpr bare,
          both_ok_iff.mpr ⟨positional.mpr positionalOk, named.mpr namedOk⟩⟩
  | member value id => simp [permit, Admissible]
  | subscript value index => simp [permit, Admissible]
  | list items =>
      rw [permit, permitAll_eq_ok_iff items, properNodes]
      exact (and_iff_right trivial).symm

theorem permitAll_eq_ok_iff (formulas : List Formula) :
    permitAll table formulas = .ok () ↔ ∀ node ∈ nodesOfAll formulas, Admissible table node := by
  cases formulas with
  | nil => simp [permitAll, nodesOfAll]
  | cons formula formulas =>
      have head := permit_eq_ok_iff formula
      have rest := permitAll_eq_ok_iff formulas
      rw [permitAll, both_ok_iff, head, rest, nodesOfAll, List.forall_mem_append]
      rfl

theorem permitKeywords_eq_ok_iff (keywords : List (String × Formula)) :
    permitKeywords table keywords = .ok () ↔
      ∀ node ∈ nodesOfKeywords keywords, Admissible table node := by
  match keywords with
  | [] => simp [permitKeywords, nodesOfKeywords]
  | (keyword, value) :: keywords =>
      have head := permit_eq_ok_iff value
      have rest := permitKeywords_eq_ok_iff keywords
      rw [permitKeywords, both_ok_iff, head, rest, nodesOfKeywords, List.forall_mem_append]
      rfl

end

end

end Formula

end LogPipe
