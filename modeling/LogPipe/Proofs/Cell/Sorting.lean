import LogPipe.Cell.Order

/-!
# Sorting cells of one kind

The total preorder of cells is not transitive in general, because an integer beside a
float is rounded.  Among present cells of one kind that is no list it is a linear order:
it reads a cell's place in an order of its own, and no two cells have the same place.
A sort by a total preorder is stable: it leaves items that are alike in their order.
-/

namespace LogPipe

section Stability

variable {α : Type} {le : α → α → Bool}

/-- Sorting leaves items that may stand in any order where they are. -/
theorem filter_mergeSort_of_alike (trans : ∀ a b c, le a b = true → le b c = true → le a c = true)
    (total : ∀ a b, (le a b || le b a) = true) {keeps : α → Bool}
    (alike : ∀ a b, keeps a = true → keeps b = true → le a b = true) (items : List α) :
    (items.mergeSort le).filter keeps = items.filter keeps := by
  have sorted : (items.filter keeps).Pairwise fun left right => le left right = true := by
    apply List.pairwise_of_forall_mem_list
    intro left isLeft right isRight
    exact alike left right (List.mem_filter.mp isLeft).2 (List.mem_filter.mp isRight).2
  have kept := (List.sublist_mergeSort trans total sorted List.filter_sublist).filter keeps
  rw [List.filter_filter] at kept
  simp only [Bool.and_self] at kept
  exact (kept.eq_of_length ((List.mergeSort_perm items le).filter keeps).length_eq.symm).symm

/-- Sorted items that are alike stay in the order that they had. -/
theorem pairwise_mergeSort_of_pairwise
    (trans : ∀ a b c, le a b = true → le b c = true → le a c = true)
    (total : ∀ a b, (le a b || le b a) = true) {ordered : α → α → Prop} {items : List α}
    (inOrder : items.Pairwise ordered) :
    (items.mergeSort le).Pairwise fun earlier later =>
      le earlier later = true ∧ (le later earlier = true → ordered earlier later) := by
  have sorted := List.pairwise_mergeSort trans total items
  refine sorted.and (List.pairwise_iff_forall_sublist.mpr ?_)
  intro earlier later inSorted turned
  have forward := List.pairwise_iff_forall_sublist.mp sorted inSorted
  have same : le earlier earlier = true := by simpa using total earlier earlier
  have left := filter_mergeSort_of_alike trans total
    (fun a b aLike bLike => trans a earlier b (Bool.and_eq_true_iff.mp aLike).2
      (Bool.and_eq_true_iff.mp bLike).1) items
  have kept := inSorted.filter fun other => le earlier other && le other earlier
  rw [left, List.filter_cons_of_pos (by simp [same]),
    List.filter_cons_of_pos (by simp [forward, turned])] at kept
  exact List.pairwise_iff_forall_sublist.mp inOrder (kept.trans List.filter_sublist)

/-- Sorted positions that are alike ascend. -/
theorem pairwise_mergeSort_range {le : Nat → Nat → Bool}
    (trans : ∀ a b c, le a b = true → le b c = true → le a c = true)
    (total : ∀ a b, (le a b || le b a) = true) (count : Nat) :
    ((List.range count).mergeSort le).Pairwise fun earlier later =>
      le earlier later = true ∧ (le later earlier = true → earlier < later) :=
  pairwise_mergeSort_of_pairwise trans total List.pairwise_lt_range

end Stability

end LogPipe

namespace LogPipe.Cell

theorem eq_of_toBits_eq {left right : Float} (same : left.toBits = right.toBits) :
    left = right := by
  obtain ⟨⟨leftBits, leftValid⟩⟩ := left
  obtain ⟨⟨rightBits, rightValid⟩⟩ := right
  cases (show leftBits = rightBits from same)
  rfl

/-- The bits of a float can be read off its place in the total order. -/
theorem eq_of_floatRank_eq {left right : Float} (same : floatRank left = floatRank right) :
    left = right := by
  have bits : left.toBits.toNat = right.toBits.toNat := by
    simp only [floatRank] at same
    split at same
    · split at same
      · omega
      · omega
    · split at same
      · omega
      · omega
  exact eq_of_toBits_eq (UInt64.toNat_inj.mp bits)

/-- A present cell of a kind. -/
def IsPresent (kind : Kind) (cell : Cell) : Prop :=
  cell.kind = kind ∧ cell.isMissing = false

/-- Present cells of a kind are in a linear order. -/
structure Sorts (kind : Kind) : Prop where
  trans : ∀ {first second third : Cell}, IsPresent kind first → IsPresent kind second →
    IsPresent kind third → first.totalCompare second = .lt →
      second.totalCompare third = .lt → first.totalCompare third = .lt
  eq_of_eq : ∀ {left right : Cell}, IsPresent kind left → IsPresent kind right →
    left.totalCompare right = .eq → left = right

/-- Cells that are compared by what is seen of them are in a linear order when nothing
else is to be seen. -/
theorem Sorts.of_view {kind : Kind} {α γ : Type} [Ord γ] [Std.TransOrd γ] [Std.LawfulEqOrd γ]
    (make : α → Cell) (view : α → γ)
    (injective : ∀ {left right : α}, view left = view right → left = right)
    (made : ∀ {cell : Cell}, IsPresent kind cell → ∃ value, cell = make value)
    (compares : ∀ {left right : α}, IsPresent kind (make left) → IsPresent kind (make right) →
      (make left).totalCompare (make right) = compare (view left) (view right)) :
    Sorts kind := by
  constructor
  · intro first second third isFirst isSecond isThird lower upper
    obtain ⟨a, rfl⟩ := made isFirst
    obtain ⟨b, rfl⟩ := made isSecond
    obtain ⟨c, rfl⟩ := made isThird
    rw [compares isFirst isSecond] at lower
    rw [compares isSecond isThird] at upper
    rw [compares isFirst isThird]
    exact Std.TransCmp.lt_trans lower upper
  · intro left right isLeft isRight same
    obtain ⟨a, rfl⟩ := made isLeft
    obtain ⟨b, rfl⟩ := made isRight
    rw [compares isLeft isRight] at same
    rw [injective (Std.LawfulEqCmp.eq_of_compare same)]

theorem totalCompare_float {left right : Float} (isLeft : left.isNaN = false)
    (isRight : right.isNaN = false) :
    (Cell.float left).totalCompare (.float right) = compare (floatRank left) (floatRank right) := by
  have ranked : ∀ {x : Float}, x.isNaN = false → (Cell.float x).rank = 2 := by
    intro x isNumber
    rw [rank, if_neg (by rw [isMissing, isNumber]; exact Bool.false_ne_true)]
  have sameRank : (Cell.float left).rank = (Cell.float right).rank := by
    rw [ranked isLeft, ranked isRight]
  rw [totalCompare, sameRank, bne_self_eq_false]
  rfl

/-- Only lists are not sorted. -/
theorem sorts_of_ne_list {kind : Kind} (noList : kind ≠ .list) : Sorts kind := by
  cases kind with
  | null =>
      have none : ∀ {cell : Cell}, ¬IsPresent .null cell := by
        rintro (_ | _ | _ | _ | _ | _ | _) ⟨⟨⟩, ⟨⟩⟩
      exact ⟨fun isFirst => absurd isFirst none, fun isLeft => absurd isLeft none⟩
  | bool =>
      refine .of_view Cell.bool id id ?_ ?_
      · rintro (_ | value | _ | _ | _ | _ | _) ⟨⟨⟩, -⟩
        exact ⟨value, rfl⟩
      · intro left right _ _
        rw [totalCompare]
        rfl
  | int =>
      refine .of_view Cell.int Int64.toInt Int64.toInt_inj.mp ?_ ?_
      · rintro (_ | _ | value | _ | _ | _ | _) ⟨⟨⟩, -⟩
        exact ⟨value, rfl⟩
      · intro left right _ _
        rw [totalCompare]
        rfl
  | float =>
      refine .of_view Cell.float floatRank eq_of_floatRank_eq ?_ ?_
      · rintro (_ | _ | _ | value | _ | _ | _) ⟨⟨⟩, -⟩
        exact ⟨value, rfl⟩
      · intro left right isLeft isRight
        exact totalCompare_float isLeft.2 isRight.2
  | time =>
      refine .of_view Cell.time Int64.toInt Int64.toInt_inj.mp ?_ ?_
      · rintro (_ | _ | _ | _ | value | _ | _) ⟨⟨⟩, -⟩
        exact ⟨value, rfl⟩
      · intro left right _ _
        rw [totalCompare]
        rfl
  | text =>
      refine .of_view Cell.text id id ?_ ?_
      · rintro (_ | _ | _ | _ | _ | value | _) ⟨⟨⟩, -⟩
        exact ⟨value, rfl⟩
      · intro left right _ _
        rw [totalCompare]
        rfl
  | list => exact absurd rfl noList

end LogPipe.Cell
