import LogPipe.Proofs.Cell.Arithmetic
import LogPipe.Proofs.Stats.Orderless

/-!
# Sums of integers

Of cells that are integers or missing only the integers count.  Their sum is an integer as
long as no sum of the first of them leaves the 64-bit range.  The sums of the positive and of
the negative integers bound every such sum, whatever the order, and some order reaches them.
-/

namespace LogPipe

open LogPipe.Decimal

/-- The integer that a cell is. -/
def Cell.int? : Cell → Option Int64
  | .int value => some value
  | _ => none

namespace Reducer

/-- Cells that are integers or missing. -/
def Integral (cells : List Cell) : Prop :=
  ∀ cell ∈ cells, cell.isMissing = true ∨ cell.kind = .int

instance (cells : List Cell) : Decidable (Integral cells) :=
  inferInstanceAs (Decidable (∀ cell ∈ cells, _))

/-- The integers among cells. -/
def integers (cells : List Cell) : List Int64 :=
  cells.filterMap Cell.int?

variable {cells others : List Cell}

theorem integers_perm (perm : cells.Perm others) : (integers cells).Perm (integers others) :=
  perm.filterMap _

theorem Integral.perm (integral : Integral cells) (perm : cells.Perm others) : Integral others :=
  fun cell member => integral cell (perm.mem_iff.mpr member)

/-- The present cells are the integers. -/
theorem Integral.present_eq (integral : Integral cells) :
    present cells = (integers cells).map Cell.int := by
  induction cells with
  | nil => rfl
  | cons cell cells induction =>
      rw [Integral, List.forall_mem_cons] at integral
      have later := induction integral.2
      rw [present, integers] at later
      rw [present, integers, List.filter_cons, List.filterMap_cons, later]
      rcases integral.1 with missing | isInt
      · have none : cell.int? = none := by
          cases cell with
          | int value => cases missing
          | _ => rfl
        simp [missing, none]
      · cases cell with
        | int value => rfl
        | _ => cases isInt

theorem ofCells_ints (values : List Int64) :
    Number.ofCells (values.map Cell.int) = .ok (values.map Number.int) := by
  induction values with
  | nil => rfl
  | cons value values induction =>
      rw [List.map_cons, Number.ofCells, induction]
      rfl

theorem Integral.numbers_eq (integral : Integral cells) :
    numbers cells = .ok ((integers cells).map Number.int) := by
  rw [numbers, integral.present_eq, ofCells_ints]

/-- The integers can be put in any order by putting the cells in some order. -/
theorem Integral.exists_cells (integral : Integral cells) {values : List Int64}
    (perm : values.Perm (integers cells)) :
    ∃ others : List Cell, others.Perm cells ∧ integers others = values := by
  refine ⟨values.map Cell.int ++ cells.filter Cell.isMissing, ?_, ?_⟩
  · have parts : (present cells ++ cells.filter fun cell => !(!cell.isMissing)).Perm cells :=
      List.filter_append_perm (fun cell : Cell => !cell.isMissing) cells
    simp only [Bool.not_not] at parts
    rw [integral.present_eq] at parts
    exact ((perm.map Cell.int).append_right _).trans parts
  · have ints : ∀ values : List Int64, integers (values.map Cell.int) = values := by
      intro values
      rw [integers, List.filterMap_map]
      exact List.filterMap_some
    have none : integers (cells.filter Cell.isMissing) = [] := by
      rw [integers, List.filterMap_eq_nil_iff]
      intro cell member
      have missing := (List.mem_filter.mp member).2
      cases cell with
      | int value => cases missing
      | _ => rfl
    rw [integers, List.filterMap_append, ← integers, ← integers, ints, none, List.append_nil]

end Reducer

namespace Integers

/-- The exact sum. -/
def total (values : List Int64) : Int :=
  (values.map Int64.toInt).sum

/-- No sum of the first integers leaves the range. -/
def StaysInRange (values : List Int64) : Prop :=
  ∀ before, before <+: values → InRange (total before)

/-- The float sum of more integers that goes on from a float. -/
def floatFrom (start : Float) (values : List Int64) : Float :=
  values.foldl (fun sum value => sum + Cell.floatOfInt value) start

def gains (values : List Int64) : List Int64 :=
  values.filter fun value => 0 < value.toInt

def losses (values : List Int64) : List Int64 :=
  values.filter fun value => value.toInt < 0

/-- Neither the positive integers alone nor the negative ones have a sum out of range. -/
def SidesInRange (values : List Int64) : Prop :=
  InRange (total (gains values)) ∧ InRange (total (losses values))

instance (values : List Int64) : Decidable (SidesInRange values) :=
  inferInstanceAs (Decidable (_ ∧ _))

variable {values others before after : List Int64} {value next : Int64}

theorem total_append (before after : List Int64) :
    total (before ++ after) = total before + total after := by
  rw [total, List.map_append, List.sum_append]
  rfl

theorem total_singleton (value : Int64) : total [value] = value.toInt :=
  Int.add_zero _

theorem total_perm (perm : values.Perm others) : total values = total others :=
  (perm.map Int64.toInt).sum_eq

section Ranges

theorem StaysInRange.of_prefix (stays : StaysInRange values) (first : before <+: values) :
    StaysInRange before :=
  fun start isStart => stays start (isStart.trans first)

theorem stays_nil : StaysInRange [] := by
  intro before first
  rw [List.prefix_nil.mp first]
  decide

/-- One more integer has to keep the sum in range. -/
theorem stays_append_singleton :
    StaysInRange (values ++ [value]) ↔
      StaysInRange values ∧ InRange (total (values ++ [value])) := by
  constructor
  · intro stays
    exact ⟨stays.of_prefix (List.prefix_append _ _), stays _ (List.prefix_refl _)⟩
  · rintro ⟨stays, inRange⟩ before first
    rcases List.prefix_concat_iff.mp first with whole | earlier
    · rw [whole]
      exact inRange
    · exact stays before earlier

/-- A sum that leaves the range does so at some integer for the first time. -/
theorem exists_overflow (leaves : ¬StaysInRange values) :
    ∃ before next after, values = before ++ next :: after ∧ StaysInRange before ∧
      ¬InRange (total (before ++ [next])) := by
  induction values using List.reverseRecOn with
  | nil => exact absurd stays_nil leaves
  | append_singleton values last induction =>
      by_cases stays : StaysInRange values
      · rw [stays_append_singleton, not_and] at leaves
        exact ⟨values, last, [], rfl, stays, leaves stays⟩
      · obtain ⟨before, next, after, rfl, staysBefore, tooLarge⟩ := induction stays
        refine ⟨before, next, after ++ [last], ?_, staysBefore, tooLarge⟩
        rw [List.append_assoc, List.cons_append]

end Ranges

section Orders

theorem total_cons (value : Int64) (values : List Int64) :
    total (value :: values) = value.toInt + total values :=
  rfl

/-- The gains and the losses alone bound the sum. -/
theorem total_bounds (values : List Int64) :
    total (losses values) ≤ total values ∧ total values ≤ total (gains values) := by
  induction values with
  | nil => exact ⟨Int.le_refl _, Int.le_refl _⟩
  | cons value values induction =>
      rw [gains, losses, List.filter_cons, List.filter_cons, ← gains, ← losses, total_cons]
      split <;> split <;> simp only [total_cons, decide_eq_true_eq] at * <;> omega

theorem total_gains_nonneg (values : List Int64) : 0 ≤ total (gains values) := by
  apply List.sum_nonneg
  rw [List.forall_mem_map]
  intro value member
  have positive := (List.mem_filter.mp member).2
  rw [decide_eq_true_eq] at positive
  omega

theorem total_losses_nonpos (values : List Int64) : total (losses values) ≤ 0 := by
  induction values with
  | nil => exact Int.le_refl _
  | cons value values induction =>
      rw [losses, List.filter_cons, ← losses]
      split
      · next negative =>
          rw [decide_eq_true_eq] at negative
          rw [total_cons]
          omega
      · exact induction

theorem SidesInRange.perm (sides : SidesInRange values) (perm : values.Perm others) :
    SidesInRange others := by
  rw [SidesInRange, gains, losses] at sides ⊢
  rw [← total_perm (perm.filter _), ← total_perm (perm.filter _)]
  exact sides

/-- In every order the sum stays in range exactly when the gains and the losses alone do. -/
theorem forall_perm_stays_iff :
    (∀ others, others.Perm values → StaysInRange others) ↔ SidesInRange values := by
  constructor
  · intro stays
    constructor
    · exact stays _ (List.filter_append_perm _ values) _ (List.prefix_append _ _)
    · exact stays _ (List.filter_append_perm _ values) _ (List.prefix_append _ _)
  · intro sides others perm before ⟨after, whole⟩
    subst whole
    obtain ⟨gainsFit, lossesFit⟩ := sides.perm perm.symm
    have bounds := total_bounds before
    have gained := total_gains_nonneg after
    have lost := total_losses_nonpos after
    rw [gains, List.filter_append, total_append, ← gains, ← gains,
      Arithmetic.inRange_iff] at gainsFit
    rw [losses, List.filter_append, total_append, ← losses, ← losses,
      Arithmetic.inRange_iff] at lossesFit
    rw [Arithmetic.inRange_iff]
    omega

end Orders

section Sums

/-- The sum of integers is an integer while it stays in range. -/
theorem foldFrom_add_of_stays (some : values ≠ []) (stays : StaysInRange values) :
    foldFrom id Number.add (values.map Number.int) = .some (.int (Int64.ofInt (total values))) := by
  induction values using List.reverseRecOn with
  | nil => exact absurd rfl some
  | append_singleton values last induction =>
      obtain ⟨staysBefore, inRange⟩ := stays_append_singleton.mp stays
      rw [List.map_append, List.map_singleton, foldFrom_append_singleton]
      by_cases empty : values = []
      · subst empty
        rw [List.nil_append, total_singleton, Int64.ofInt_toInt]
        rfl
      · rw [induction empty staysBefore, Option.map_some, Option.getD_some, Number.add,
          toInt_ofInt_of_inRange (staysBefore _ (List.prefix_refl _)), ← total_singleton last,
          ← total_append, int64?_of_inRange inRange]

theorem foldl_add_float (sum : Float) (values : List Int64) :
    (values.map Number.int).foldl Number.add (.float sum) = .float (floatFrom sum values) := by
  induction values generalizing sum with
  | nil => rfl
  | cons value values induction =>
      rw [List.map_cons, List.foldl_cons, Number.add, induction]
      · rfl
      · intro _ _ isInt
        cases isInt

/-- From the first sum out of range on, floats are added. -/
theorem foldFrom_add_of_overflow (stays : StaysInRange before)
    (leaves : ¬InRange (total (before ++ [next]))) :
    foldFrom id Number.add ((before ++ next :: after).map Number.int) =
      some (.float (floatFrom
        (Cell.floatOfInt (Int64.ofInt (total before)) + Cell.floatOfInt next) after)) := by
  have some : before ≠ [] := by
    rintro rfl
    rw [List.nil_append, total_singleton] at leaves
    exact leaves (inRange_toInt next)
  have inRange := stays _ (List.prefix_refl _)
  rw [total_append, total_singleton] at leaves
  rw [List.map_append, foldFrom_append (foldFrom_add_of_stays some stays), List.map_cons,
    List.foldl_cons, Number.add, toInt_ofInt_of_inRange inRange, int64?_of_not_inRange leaves,
    foldl_add_float]

end Sums

end Integers

end LogPipe
