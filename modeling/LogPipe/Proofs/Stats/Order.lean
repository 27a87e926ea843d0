import LogPipe.Stats.Grouping
import LogPipe.Proofs.Cell.Comparison
import LogPipe.Proofs.Cell.Sorting
import Mathlib.Data.List.Forall2

/-!
# The order of groups

Groups are sorted by their key cells, the first column deciding first.  When no key is a
list the order of key cells is linear, so that the sorted groups ascend strictly as soon
as no two of them have the same key cells.
-/

namespace LogPipe.Grouping

variable {left right : List Cell}

theorem compareKeys_cons (first second : Cell) (left right : List Cell) :
    compareKeys (first :: left) (second :: right) =
      (first.totalCompare second).then (compareKeys left right) := by
  rw [compareKeys]
  cases first.totalCompare second <;> rfl

theorem compareKeys_cons_eq_lt_iff {first second : Cell} :
    compareKeys (first :: left) (second :: right) = .lt ↔
      first.totalCompare second = .lt ∨
        first.totalCompare second = .eq ∧ compareKeys left right = .lt := by
  rw [compareKeys_cons, Ordering.then_eq_lt]

theorem compareKeys_cons_eq_eq_iff {first second : Cell} :
    compareKeys (first :: left) (second :: right) = .eq ↔
      first.totalCompare second = .eq ∧ compareKeys left right = .eq := by
  rw [compareKeys_cons, Ordering.then_eq_eq]

/-- The order of key cells is turned around with its operands. -/
theorem compareKeys_swap (left right : List Cell) :
    compareKeys right left = (compareKeys left right).swap := by
  induction left generalizing right with
  | nil => cases right <;> rfl
  | cons first left induction =>
      cases right with
      | nil => rfl
      | cons second right =>
          rw [compareKeys_cons, compareKeys_cons, Cell.totalCompare_swap first second,
            induction right, Ordering.swap_then]

/-- The first column that tells two lists of key cells apart decides. -/
theorem compareKeys_eq_lt_iff (names : List String) (lower upper : String → Cell) :
    compareKeys (names.map lower) (names.map upper) = .lt ↔
      ∃ before name after, names = before ++ name :: after ∧
        (∀ other ∈ before, (lower other).totalCompare (upper other) = .eq) ∧
        (lower name).totalCompare (upper name) = .lt := by
  induction names with
  | nil => simp [compareKeys]
  | cons name names induction =>
      rw [List.map_cons, List.map_cons, compareKeys_cons_eq_lt_iff, induction]
      constructor
      · rintro (less | ⟨same, before, decisive, after, rfl, equal, less⟩)
        · exact ⟨[], name, names, rfl, nofun, less⟩
        · refine ⟨name :: before, decisive, after, rfl, ?_, less⟩
          exact List.forall_mem_cons.mpr ⟨same, equal⟩
      · rintro ⟨before, decisive, after, split, equal, less⟩
        cases before with
        | nil =>
            cases split
            exact Or.inl less
        | cons first before =>
            cases split
            rw [List.forall_mem_cons] at equal
            exact Or.inr ⟨equal.1, before, decisive, after, rfl, equal.2, less⟩

section Kinds

variable {kinds : List Kind} {first second third : List Cell}

theorem eq_of_compareKeys_eq (noList : ∀ kind ∈ kinds, kind ≠ .list)
    (isFirst : List.Forall₂ Cell.IsPresent kinds first)
    (isSecond : List.Forall₂ Cell.IsPresent kinds second)
    (same : compareKeys first second = .eq) : first = second := by
  induction isFirst generalizing second with
  | nil =>
      cases isSecond
      rfl
  | cons isHead isTail induction =>
      cases isSecond with
      | cons isOther isRest =>
          rw [List.forall_mem_cons] at noList
          obtain ⟨sameHead, sameTail⟩ := compareKeys_cons_eq_eq_iff.mp same
          rw [(Cell.sorts_of_ne_list noList.1).eq_of_eq isHead isOther sameHead,
            induction noList.2 isRest sameTail]

theorem compareKeys_lt_trans (noList : ∀ kind ∈ kinds, kind ≠ .list)
    (isFirst : List.Forall₂ Cell.IsPresent kinds first)
    (isSecond : List.Forall₂ Cell.IsPresent kinds second)
    (isThird : List.Forall₂ Cell.IsPresent kinds third)
    (lower : compareKeys first second = .lt) (upper : compareKeys second third = .lt) :
    compareKeys first third = .lt := by
  induction isFirst generalizing second third with
  | nil => cases isSecond with | nil => cases lower
  | cons isA isAs induction =>
      cases isSecond with
      | cons isB isBs =>
          cases isThird with
          | cons isC isCs =>
              rw [List.forall_mem_cons] at noList
              have sorts := Cell.sorts_of_ne_list noList.1
              rw [compareKeys_cons_eq_lt_iff] at lower upper ⊢
              rcases lower with less | ⟨same, lessTail⟩
              · rcases upper with above | ⟨sameAbove, -⟩
                · exact Or.inl (sorts.trans isA isB isC less above)
                · rw [← sorts.eq_of_eq isB isC sameAbove]
                  exact Or.inl less
              · rw [sorts.eq_of_eq isA isB same]
                rcases upper with above | ⟨sameAbove, aboveTail⟩
                · exact Or.inl above
                · exact Or.inr ⟨sameAbove, induction noList.2 isBs isCs lessTail aboveTail⟩

end Kinds

/-- A sort only asks that the order is a preorder on the members of the list. -/
theorem pairwise_mergeSort_of_mem {α : Type} {le : α → α → Bool} {items : List α}
    (trans : ∀ a ∈ items, ∀ b ∈ items, ∀ c ∈ items,
      le a b = true → le b c = true → le a c = true)
    (total : ∀ a ∈ items, ∀ b ∈ items, (le a b || le b a) = true) :
    (items.mergeSort le).Pairwise fun a b => le a b = true := by
  -- Sorting the attached list lets the order see that its operands are members.
  let within : { item // item ∈ items } → { item // item ∈ items } → Bool :=
    fun a b => le a.1 b.1
  have sorted : (items.attach.mergeSort within).Pairwise fun a b => within a b = true :=
    List.pairwise_mergeSort (fun a b c => trans a.1 a.2 b.1 b.2 c.1 c.2)
      (fun a b => total a.1 a.2 b.1 b.2) items.attach
  have mapped : (items.attach.mergeSort within).map Subtype.val = items.mergeSort le := by
    have commutes := @List.map_mergeSort _ _ within le Subtype.val items.attach
      fun _ _ _ _ => rfl
    rw [commutes, List.attach_map_subtype_val]
  rw [← mapped, List.pairwise_map]
  exact sorted

/-- Groups with key cells of the same kinds ascend strictly when they are sorted, as long
as no two of them have the same key cells. -/
theorem pairwise_sorted {grouping : Grouping} {kinds : List Kind}
    (noList : ∀ kind ∈ kinds, kind ≠ .list)
    (ofKinds : ∀ entry ∈ grouping.keys.zip grouping.members,
      List.Forall₂ Cell.IsPresent kinds entry.1)
    (distinct : ((grouping.keys.zip grouping.members).map Prod.fst).Nodup) :
    grouping.sorted.Pairwise fun left right => compareKeys left.1 right.1 = .lt := by
  have perm : grouping.sorted.Perm (grouping.keys.zip grouping.members) :=
    List.mergeSort_perm _ _
  have ascending : grouping.sorted.Pairwise fun left right =>
      (compareKeys left.1 right.1 != .gt) = true := by
    apply pairwise_mergeSort_of_mem
    · intro a isA b isB c isC lower upper
      have kindsA := ofKinds a isA
      have kindsB := ofKinds b isB
      have kindsC := ofKinds c isC
      cases ab : compareKeys a.1 b.1 with
      | gt => simp [ab] at lower
      | eq =>
          rw [eq_of_compareKeys_eq noList kindsA kindsB ab]
          exact upper
      | lt =>
          cases bc : compareKeys b.1 c.1 with
          | gt => simp [bc] at upper
          | eq =>
              rw [← eq_of_compareKeys_eq noList kindsB kindsC bc]
              exact lower
          | lt =>
              rw [compareKeys_lt_trans noList kindsA kindsB kindsC ab bc]
              rfl
    · intro a _ b _
      rw [compareKeys_swap a.1 b.1]
      cases compareKeys a.1 b.1 <;> rfl
  have different : grouping.sorted.Pairwise fun left right => left.1 ≠ right.1 :=
    List.pairwise_map.mp ((perm.map Prod.fst).nodup_iff.mpr distinct)
  refine (ascending.and different).imp_of_mem ?_
  intro left right isLeft isRight ⟨notAfter, apart⟩
  cases compared : compareKeys left.1 right.1 with
  | lt => rfl
  | gt => simp [compared] at notAfter
  | eq =>
      have same := eq_of_compareKeys_eq noList (ofKinds left (perm.mem_iff.mp isLeft))
        (ofKinds right (perm.mem_iff.mp isRight)) compared
      exact absurd same apart

end LogPipe.Grouping
