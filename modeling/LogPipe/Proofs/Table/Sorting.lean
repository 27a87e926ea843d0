import LogPipe.Proofs.Cell.Transitivity
import LogPipe.Proofs.Table.Gathering
import LogPipe.Table.Sorted

/-!
# Sorted tables

The rows of a sorted table are those of the table in another order.  The first key whose cells
are not alike tells which of two rows comes first, and a missing cell comes behind the present
ones whatever the direction.  Rows that are alike in all keys stay in their order.
-/

namespace LogPipe

namespace SortKey

/-- A cell that has to stand before another one.  The direction turns the order of present cells
around, but a missing cell stays behind them. -/
inductive CellBefore : Bool → Cell → Cell → Prop where
  | missing {descending : Bool} {left right : Cell} (present : left.isMissing = false)
      (missing : right.isMissing = true) : CellBefore descending left right
  | ascending {left right : Cell} (leftPresent : left.isMissing = false)
      (rightPresent : right.isMissing = false) (less : left.totalCompare right = .lt) :
      CellBefore false left right
  | descending {left right : Cell} (leftPresent : left.isMissing = false)
      (rightPresent : right.isMissing = false) (greater : left.totalCompare right = .gt) :
      CellBefore true left right

/-- Cells that the order does not tell apart. -/
inductive CellLike : Cell → Cell → Prop where
  | missing {left right : Cell} (leftMissing : left.isMissing = true)
      (rightMissing : right.isMissing = true) : CellLike left right
  | present {left right : Cell} (leftPresent : left.isMissing = false)
      (rightPresent : right.isMissing = false) (same : left.totalCompare right = .eq) :
      CellLike left right

/-- A row that has to stand before another one: the first key whose cells are not alike
decides. -/
inductive RowBefore (table : Table) (left right : Nat) : List SortKey → Prop where
  | here {key : SortKey} {keys : List SortKey}
      (before : CellBefore key.descending (table.cell key.column left)
        (table.cell key.column right)) : RowBefore table left right (key :: keys)
  | later {key : SortKey} {keys : List SortKey}
      (alike : CellLike (table.cell key.column left) (table.cell key.column right))
      (before : RowBefore table left right keys) : RowBefore table left right (key :: keys)

/-- Rows that no key tells apart. -/
def RowsLike (table : Table) (left right : Nat) (keys : List SortKey) : Prop :=
  ∀ key ∈ keys, CellLike (table.cell key.column left) (table.cell key.column right)

/-! ## The order of cells -/

section Cells

variable {descending : Bool} {left right : Cell}

/-- Missing cells are told apart first. -/
theorem compareCells_eq (descending : Bool) (left right : Cell) :
    compareCells descending left right =
      (compare left.isMissing right.isMissing).then
        (if left.isMissing then .eq
          else if descending then right.totalCompare left else left.totalCompare right) := by
  rw [compareCells]
  cases left.isMissing <;> cases right.isMissing <;> rfl

theorem compareCells_swap (descending : Bool) (left right : Cell) :
    compareCells descending right left = (compareCells descending left right).swap := by
  rw [compareCells, compareCells]
  cases left.isMissing <;> cases right.isMissing
  · cases descending
    · exact Cell.totalCompare_swap left right
    · exact Cell.totalCompare_swap right left
  · rfl
  · rfl
  · rfl

theorem compareCells_eq_lt_iff :
    compareCells descending left right = .lt ↔ CellBefore descending left right := by
  rw [compareCells]
  constructor
  · intro less
    split at less
    · cases less
    · cases less
    · next present missing => exact .missing present missing
    · next leftPresent rightPresent =>
        cases descending with
        | false => exact .ascending leftPresent rightPresent less
        | true =>
            refine .descending leftPresent rightPresent ?_
            rw [Cell.totalCompare_swap right left]
            exact congrArg Ordering.swap less
  · rintro (⟨present, missing⟩ | ⟨leftPresent, rightPresent, less⟩ |
      ⟨leftPresent, rightPresent, greater⟩)
    · rw [present, missing]
    · rw [leftPresent, rightPresent]
      exact less
    · rw [leftPresent, rightPresent]
      exact (Cell.totalCompare_swap left right).trans (congrArg Ordering.swap greater)

theorem compareCells_eq_eq_iff :
    compareCells descending left right = .eq ↔ CellLike left right := by
  rw [compareCells]
  constructor
  · intro same
    split at same
    · next leftMissing rightMissing => exact .missing leftMissing rightMissing
    · cases same
    · cases same
    · next leftPresent rightPresent =>
        refine .present leftPresent rightPresent ?_
        cases descending with
        | false => exact same
        | true =>
            rw [Cell.totalCompare_swap right left]
            exact congrArg Ordering.swap same
  · rintro (⟨leftMissing, rightMissing⟩ | ⟨leftPresent, rightPresent, same⟩)
    · rw [leftMissing, rightMissing]
    · rw [leftPresent, rightPresent]
      cases descending with
      | false => exact same
      | true => exact (Cell.totalCompare_swap left right).trans (congrArg Ordering.swap same)

end Cells

/-! ## The order of rows -/

theorem rowsLike_cons {table : Table} {left right : Nat} {key : SortKey} {keys : List SortKey} :
    RowsLike table left right (key :: keys) ↔
      CellLike (table.cell key.column left) (table.cell key.column right) ∧
        RowsLike table left right keys :=
  List.forall_mem_cons

section Rows

/-- Among the cells of a column, and within its lists, no float is the nearest one to two
integers. -/
def Orderly (column : Column) : Prop :=
  Cell.Resolved fun part => ∃ position, part ∈ (column.cellAt position).parts

/-- Only a column of lists can have integers next to floats. -/
theorem orderly_of_uniform {column : Column} (uniform : column.Uniform)
    (noList : column.kind ≠ .list) : Orderly column := by
  have kindOf {part : Cell} (isPart : ∃ position, part ∈ (column.cellAt position).parts) :
      part.Fits column.kind := by
    obtain ⟨position, isPart⟩ := isPart
    have fits := Column.cellAt_fits uniform position
    cases found : column.cellAt position with
    | list items =>
        rw [found] at fits
        rcases fits with isNull | isList
        · cases isNull
        · exact absurd isList.symm noList
    | _ =>
        simp only [found, Cell.parts, List.mem_singleton] at isPart
        rwa [isPart, ← found]
  intro x a b isPart aPart _ _ _
  rcases kindOf isPart with isNull | isFloat
  · cases isNull
  · rcases kindOf aPart with isNull | isInt
    · cases isNull
    · cases isFloat.trans isInt.symm

theorem chained_compareCells {column : Column} (orderly : Orderly column) (descending : Bool)
    (first second third : Nat) :
    Chained (compareCells descending (column.cellAt first) (column.cellAt second))
      (compareCells descending (column.cellAt second) (column.cellAt third))
      (compareCells descending (column.cellAt first) (column.cellAt third)) := by
  have chained (a b c : Nat) := Cell.chained_totalCompare orderly (column.cellAt a)
    (column.cellAt b) (column.cellAt c) (fun _ isPart => ⟨a, isPart⟩)
    (fun _ isPart => ⟨b, isPart⟩) (fun _ isPart => ⟨c, isPart⟩)
  rw [compareCells_eq, compareCells_eq, compareCells_eq]
  refine (Chained.of_compare _ _ _).next fun lower upper => ?_
  rw [Std.LawfulEqCmp.compare_eq_iff_eq] at lower upper
  rw [← lower]
  split
  · exact .equal
  · cases descending with
    | false => exact chained first second third
    | true => exact (chained third second first).flip

theorem compareRows_cons (column : Column) (descending : Bool)
    (columns : List (Column × Bool)) (left right : Nat) :
    compareRows ((column, descending) :: columns) left right =
      (compareCells descending (column.cellAt left) (column.cellAt right)).then
        (compareRows columns left right) := by
  rw [compareRows]
  cases compareCells descending (column.cellAt left) (column.cellAt right) <;> rfl

theorem compareRows_swap (columns : List (Column × Bool)) (left right : Nat) :
    compareRows columns right left = (compareRows columns left right).swap := by
  induction columns with
  | nil => rfl
  | cons entry columns induction =>
      rw [compareRows_cons, compareRows_cons, compareCells_swap, induction, Ordering.swap_then]

theorem chained_compareRows {columns : List (Column × Bool)}
    (orderly : ∀ entry ∈ columns, Orderly entry.1) (first second third : Nat) :
    Chained (compareRows columns first second) (compareRows columns second third)
      (compareRows columns first third) := by
  induction columns with
  | nil => exact .equal
  | cons entry columns induction =>
      rw [List.forall_mem_cons] at orderly
      rw [compareRows_cons, compareRows_cons, compareRows_cons]
      exact (chained_compareCells orderly.1 entry.2 first second third).next fun _ _ =>
        induction orderly.2

end Rows

end SortKey

namespace Table

open SortKey

variable {table : Table} {keys : List SortKey} {columns : List (Column × Bool)}

/-- Keys are looked up one by one, each with its direction. -/
theorem sortColumns_eq_ok_iff :
    table.sortColumns keys = .ok columns ↔
      List.Forall₂ (fun key entry => table.column? key.column = some entry.1 ∧
        entry.2 = key.descending) keys columns := by
  induction keys generalizing columns with
  | nil => simp [sortColumns, eq_comm]
  | cons key keys induction =>
      rw [List.forall₂_cons_left_iff, sortColumns]
      cases required : table.require key.column with
      | error error =>
          constructor
          · intro found
            cases found
          · rintro ⟨entry, later, named, -, -⟩
            rw [require_eq_ok_iff.mpr named.1] at required
            cases required
      | ok column =>
          have named := require_eq_ok_iff.mp required
          cases continued : table.sortColumns keys with
          | error error =>
              constructor
              · intro found
                cases found
              · rintro ⟨entry, later, -, rest, -⟩
                rw [induction.mpr rest] at continued
                cases continued
          | ok later =>
              constructor
              · intro found
                cases found
                exact ⟨(column, key.descending), later, ⟨named, rfl⟩,
                  induction.mp continued, rfl⟩
              · rintro ⟨⟨other, descending⟩, rest, ⟨sameNamed, rfl⟩, others, rfl⟩
                rw [induction.mpr others] at continued
                cases continued
                rw [named] at sameNamed
                cases sameNamed
                rfl

section Order

variable (wellFormed : table.WellFormed) {left right : Nat} (leftInside : left < table.rows)
  (rightInside : right < table.rows)

include wellFormed leftInside rightInside

theorem compareRows_eq_lt_iff (found : table.sortColumns keys = .ok columns) :
    compareRows columns left right = .lt ↔ RowBefore table left right keys := by
  rw [sortColumns_eq_ok_iff] at found
  induction found with
  | nil =>
      constructor
      · intro less
        cases less
      · intro before
        cases before
  | @cons key entry keys columns named _ induction =>
      rw [compareRows_cons, Ordering.then_eq_lt, compareCells_eq_lt_iff, compareCells_eq_eq_iff,
        induction, named.2, ← wellFormed.cell_eq named.1 leftInside,
        ← wellFormed.cell_eq named.1 rightInside]
      constructor
      · rintro (before | ⟨alike, before⟩)
        · exact .here before
        · exact .later alike before
      · rintro (before | ⟨alike, before⟩)
        · exact .inl before
        · exact .inr ⟨alike, before⟩

theorem compareRows_eq_eq_iff (found : table.sortColumns keys = .ok columns) :
    compareRows columns left right = .eq ↔ RowsLike table left right keys := by
  rw [sortColumns_eq_ok_iff] at found
  induction found with
  | nil => simp [compareRows, RowsLike]
  | @cons key entry keys columns named _ induction =>
      rw [compareRows_cons, Ordering.then_eq_eq, compareCells_eq_eq_iff, induction, rowsLike_cons,
        wellFormed.cell_eq named.1 leftInside, wellFormed.cell_eq named.1 rightInside]

end Order

/-- Keys that name columns other than lists give columns in which the cells are in order. -/
theorem exists_sortColumns (wellFormed : table.WellFormed)
    (sortable : ∀ key ∈ keys, ∃ column,
      table.column? key.column = some column ∧ column.kind ≠ .list) :
    ∃ columns, table.sortColumns keys = .ok columns ∧ ∀ entry ∈ columns, Orderly entry.1 := by
  induction keys with
  | nil => exact ⟨[], rfl, nofun⟩
  | cons key keys induction =>
      rw [List.forall_mem_cons] at sortable
      obtain ⟨⟨column, named, noList⟩, later⟩ := sortable
      obtain ⟨columns, found, orderly⟩ := induction later
      refine ⟨(column, key.descending) :: columns, ?_, ?_⟩
      · exact sortColumns_eq_ok_iff.mpr (.cons ⟨named, rfl⟩ (sortColumns_eq_ok_iff.mp found))
      · exact List.forall_mem_cons.mpr
          ⟨orderly_of_uniform (wellFormed.uniform_of_column? named) noList, orderly⟩

/-- A sorted table has the rows of the table in another order, each one whole.  No row stands
behind one that has to come later, and of rows that are alike the earlier one comes first. -/
theorem sortBy_stable (wellFormed : table.WellFormed)
    (sortable : ∀ key ∈ keys, ∃ column,
      table.column? key.column = some column ∧ column.kind ≠ .list) :
    ∃ positions, table.sortBy keys = .ok (table.takeRows positions) ∧
      positions.Perm (List.range table.rows) ∧
      positions.Pairwise fun earlier later =>
        ¬RowBefore table later earlier keys ∧
          (RowBefore table earlier later keys ∨
            RowsLike table earlier later keys ∧ earlier < later) := by
  obtain ⟨columns, found, orderly⟩ := exists_sortColumns wellFormed sortable
  have trans (a b c : Nat) (lower : (compareRows columns a b != .gt) = true)
      (upper : (compareRows columns b c != .gt) = true) :
      (compareRows columns a c != .gt) = true := by
    rw [bne_iff_ne] at *
    exact (chained_compareRows orderly a b c).ne_gt lower upper
  have total (a b : Nat) :
      (compareRows columns a b != .gt || compareRows columns b a != .gt) = true := by
    rw [compareRows_swap columns a b]
    cases compareRows columns a b <;> rfl
  have perm := List.mergeSort_perm (List.range table.rows) fun left right =>
    compareRows columns left right != .gt
  refine ⟨_, ?_, perm, (pairwise_mergeSort_range trans total table.rows).imp_of_mem ?_⟩
  · rw [sortBy, found]
  · intro earlier later isEarlier isLater ⟨notAfter, stable⟩
    have earlierInside := List.mem_range.mp (perm.mem_iff.mp isEarlier)
    have laterInside := List.mem_range.mp (perm.mem_iff.mp isLater)
    rw [← compareRows_eq_lt_iff wellFormed laterInside earlierInside found,
      ← compareRows_eq_lt_iff wellFormed earlierInside laterInside found,
      ← compareRows_eq_eq_iff wellFormed earlierInside laterInside found]
    rw [compareRows_swap columns earlier later] at stable ⊢
    cases compared : compareRows columns earlier later with
    | lt => exact ⟨nofun, .inl rfl⟩
    | eq =>
        rw [compared] at stable
        exact ⟨nofun, .inr ⟨rfl, stable rfl⟩⟩
    | gt =>
        rw [compared] at notAfter
        cases notAfter

/-- Replies of two hosts, one of them without a size. -/
def replies : Table :=
  ⟨4, [("host", ⟨.text, [.text "b", .text "a", .text "a", .text "b"]⟩),
    ("bytes", ⟨.int, [.int 10, .null, .int 30, .int 10]⟩)]⟩

/-- The reply without a size comes behind the other one of its host, also when the largest
size comes first. -/
theorem sortBy_stable_replies :
    (∃ positions, replies.sortBy [⟨"host", false⟩, ⟨"bytes", true⟩] =
        .ok (replies.takeRows positions) ∧
      positions.Perm (List.range 4) ∧
      positions.Pairwise fun earlier later =>
        ¬RowBefore replies later earlier [⟨"host", false⟩, ⟨"bytes", true⟩] ∧
          (RowBefore replies earlier later [⟨"host", false⟩, ⟨"bytes", true⟩] ∨
            RowsLike replies earlier later [⟨"host", false⟩, ⟨"bytes", true⟩] ∧
              earlier < later)) ∧
      RowBefore replies 2 1 [⟨"host", false⟩, ⟨"bytes", true⟩] := by
  constructor
  · refine sortBy_stable (by decide) ?_
    exact List.forall_mem_cons.mpr ⟨⟨_, rfl, by decide⟩,
      List.forall_mem_singleton.mpr ⟨_, rfl, by decide⟩⟩
  · exact .later (.present rfl rfl (by decide +kernel)) (.here (.missing rfl rfl))

end Table

end LogPipe
