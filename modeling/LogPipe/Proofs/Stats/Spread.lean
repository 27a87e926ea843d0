import LogPipe.Proofs.Cell.Nearest
import LogPipe.Proofs.Stats.Integers

/-!
# Range and median of integers

Least and greatest integers are found by comparing integers, but the range and the median
compare the floats nearest to them.  So of several integers with one nearest float the range
takes the first, and the median counts them in the order in which they come.  Both are exact when
no two different integers share their nearest float.
-/

namespace LogPipe

open LogPipe.Decimal Integers Reducer

/-- The place among the floats of the one nearest to an integer. -/
def nearestRank (value : Int64) : Int :=
  Cell.floatRank (Cell.floatOfInt value)

theorem nearestRank_le {less more : Int64} (le : less.toInt ≤ more.toInt) :
    nearestRank less ≤ nearestRank more :=
  Cell.floatRank_floatOfInt_le le

theorem floatOfInt_lt_iff_nearestRank {less more : Int64} :
    Cell.floatOfInt less < Cell.floatOfInt more ↔ nearestRank less < nearestRank more := by
  rw [Cell.floatOfInt_lt_iff, nearestRank, nearestRank, Cell.floatRank_floatOfInt,
    Cell.floatRank_floatOfInt]

/-- No two different integers of a list share their nearest float. -/
def ToldApart (values : List Int64) : Prop :=
  ∀ value ∈ values, ∀ other ∈ values, nearestRank value = nearestRank other → value = other

/-- The first of the values whose rank is least. -/
def IsFirstLeast (rank : Int64 → Int) (values : List Int64) (chosen : Int64) : Prop :=
  ∃ before after, values = before ++ chosen :: after ∧
    (∀ other ∈ before, rank chosen < rank other) ∧ ∀ other ∈ after, rank chosen ≤ rank other

section FirstLeast

variable {rank : Int64 → Int} {values : List Int64} {chosen value : Int64}

theorem isFirstLeast_singleton (rank : Int64 → Int) (value : Int64) :
    IsFirstLeast rank [value] value :=
  ⟨[], [], rfl, nofun, nofun⟩

theorem IsFirstLeast.mem (first : IsFirstLeast rank values chosen) : chosen ∈ values := by
  obtain ⟨before, after, rfl, -, -⟩ := first
  exact List.mem_append_right _ List.mem_cons_self

theorem IsFirstLeast.le (first : IsFirstLeast rank values chosen) :
    ∀ other ∈ values, rank chosen ≤ rank other := by
  obtain ⟨before, after, rfl, below, notAbove⟩ := first
  rw [List.forall_mem_append, List.forall_mem_cons]
  exact ⟨fun other member => Int.le_of_lt (below other member), Int.le_refl _, notAbove⟩

/-- Among values of one rank the first is chosen. -/
theorem IsFirstLeast.head?_eq (first : IsFirstLeast rank values chosen)
    (same : ∀ other ∈ values, rank other = rank chosen) : values.head? = some chosen := by
  obtain ⟨before, after, rfl, below, -⟩ := first
  cases before with
  | nil => rfl
  | cons head rest =>
      have less := below head List.mem_cons_self
      rw [same head List.mem_cons_self] at less
      exact absurd less (Int.lt_irrefl _)

/-- One more value is chosen when its rank is less. -/
theorem IsFirstLeast.push (first : IsFirstLeast rank values chosen) (value : Int64) :
    IsFirstLeast rank (values ++ [value]) (if rank value < rank chosen then value else chosen) := by
  by_cases less : rank value < rank chosen
  · rw [if_pos less]
    refine ⟨values, [], rfl, fun other member => ?_, nofun⟩
    exact Int.lt_of_lt_of_le less (first.le other member)
  · rw [if_neg less]
    obtain ⟨before, after, rfl, below, notAbove⟩ := first
    refine ⟨before, after ++ [value], ?_, below, ?_⟩
    · rw [List.append_assoc, List.cons_append]
    · rw [List.forall_mem_append, List.forall_mem_singleton]
      exact ⟨notAbove, Int.not_lt.mp less⟩

end FirstLeast

section Range

variable {values : List Int64}

theorem widen_ints (lo hi value : Int64) :
    widen (.int lo, .int hi) (.int value) =
      (.int (if nearestRank value < nearestRank lo then value else lo),
        .int (if -nearestRank value < -nearestRank hi then value else hi)) := by
  simp only [widen, Number.toFloat, floatOfInt_lt_iff_nearestRank, Int.neg_lt_neg_iff]
  split <;> split <;> rfl

/-- The bounds that a range is widened to. -/
theorem exists_bounds (some : values ≠ []) :
    ∃ lo hi, IsFirstLeast nearestRank values lo ∧
      IsFirstLeast (fun value => -nearestRank value) values hi ∧
      foldFrom (fun number => (number, number)) widen (values.map Number.int) =
        .some (.int lo, .int hi) := by
  induction values using List.reverseRecOn with
  | nil => exact absurd rfl some
  | append_singleton values value induction =>
      rw [List.map_append, List.map_singleton, foldFrom_append_singleton]
      by_cases empty : values = []
      · subst empty
        exact ⟨value, value, isFirstLeast_singleton _ value, isFirstLeast_singleton _ value, rfl⟩
      · obtain ⟨lo, hi, isLo, isHi, folded⟩ := induction empty
        refine ⟨_, _, isLo.push value, isHi.push value, ?_⟩
        rw [folded, Option.map_some, Option.getD_some, widen_ints]

/-- The least of some integers. -/
def IsMinimum (values : List Int64) (least : Int64) : Prop :=
  least ∈ values ∧ ∀ other ∈ values, least.toInt ≤ other.toInt

def IsMaximum (values : List Int64) (greatest : Int64) : Prop :=
  greatest ∈ values ∧ ∀ other ∈ values, other.toInt ≤ greatest.toInt

/-- Least and greatest integers are chosen by comparing integers. -/
theorem exists_extreme {cells : List Cell} (integral : Integral cells) (some : integers cells ≠ [])
    {wanted : Ordering} (directed : wanted ≠ .eq) :
    ∃ best ∈ integers cells, extreme wanted cells = .int best ∧
      ∀ other ∈ integers cells,
        other = best ∨ compare best.toInt other.toInt = wanted := by
  have sorts : Cell.Sorts .int := Cell.sorts_of_ne_list nofun
  have isPresent : ∀ cell ∈ (integers cells).map Cell.int, Cell.IsPresent .int cell := by
    rw [List.forall_mem_map]
    exact fun value _ => ⟨rfl, rfl⟩
  rw [extreme_eq, integral.present_eq]
  cases folded : foldFrom id (better wanted) ((integers cells).map Cell.int) with
  | none => exact absurd (List.map_eq_nil_iff.mp (foldFrom_eq_none_iff.mp folded)) some
  | some best =>
      obtain ⟨member, first⟩ :=
        isExtreme_foldFrom sorts directed isPresent folded
      obtain ⟨value, inValues, rfl⟩ := List.mem_map.mp member
      refine ⟨value, inValues, rfl, fun other isOther => ?_⟩
      rcases first _ (List.mem_map_of_mem isOther) with same | before
      · cases same
        exact Or.inl rfl
      · rw [Cell.totalCompare] at before
        exact Or.inr before

theorem exists_isMinimum {cells : List Cell} (integral : Integral cells)
    (some : integers cells ≠ []) :
    ∃ least, IsMinimum (integers cells) least ∧ Reducer.min cells = .int least := by
  obtain ⟨least, member, chosen, first⟩ :=
    exists_extreme integral some (show Ordering.lt ≠ .eq by decide)
  refine ⟨least, ⟨member, fun other isOther => ?_⟩, chosen⟩
  rcases first other isOther with rfl | less
  · exact Int.le_refl _
  · exact Int.le_of_lt (Int.compare_eq_lt.mp less)

theorem exists_isMaximum {cells : List Cell} (integral : Integral cells)
    (some : integers cells ≠ []) :
    ∃ greatest, IsMaximum (integers cells) greatest ∧ Reducer.max cells = .int greatest := by
  obtain ⟨greatest, member, chosen, first⟩ :=
    exists_extreme integral some (show Ordering.gt ≠ .eq by decide)
  refine ⟨greatest, ⟨member, fun other isOther => ?_⟩, chosen⟩
  rcases first other isOther with rfl | more
  · exact Int.le_refl _
  · exact Int.le_of_lt (Int.compare_eq_gt.mp more)

/-- The difference of two integers while it stays in range. -/
theorem sub_ints {hi lo : Int64} (inRange : InRange (hi.toInt - lo.toInt)) :
    (Number.int hi).sub (.int lo) = .int (Int64.ofInt (hi.toInt - lo.toInt)) := by
  rw [Number.sub, int64?_of_inRange inRange]

/-- The bounds of a range are in order: when their nearest floats are not told apart, both are
the first integer. -/
theorem bounds_le {lo hi : Int64} (isLo : IsFirstLeast nearestRank values lo)
    (isHi : IsFirstLeast (fun value => -nearestRank value) values hi) : lo.toInt ≤ hi.toInt := by
  apply Int.not_lt.mp
  intro turned
  have sameBounds := Int.le_antisymm (isLo.le hi isHi.mem) (nearestRank_le (Int.le_of_lt turned))
  have sameRank : ∀ other ∈ values, nearestRank other = nearestRank lo := by
    intro other member
    have below := isLo.le other member
    have above := isHi.le other member
    omega
  have isFirst := isLo.head?_eq sameRank
  rw [isHi.head?_eq fun other member => by rw [sameRank other member, sameBounds]] at isFirst
  cases isFirst
  exact Int.lt_irrefl _ turned

/-- The range lies within the difference of the greatest and the least integer, and is that
difference exactly when its bounds are these. -/
theorem range_exact_iff {lo hi least greatest : Int64}
    (isLo : IsFirstLeast nearestRank values lo)
    (isHi : IsFirstLeast (fun value => -nearestRank value) values hi)
    (isMinimum : IsMinimum values least) (isMaximum : IsMaximum values greatest)
    (inRange : InRange (greatest.toInt - least.toInt)) :
    (Number.int hi).sub (.int lo) = .int (Int64.ofInt (greatest.toInt - least.toInt)) ↔
      lo = least ∧ hi = greatest := by
  have low := isMinimum.2 lo isLo.mem
  have high := isMaximum.2 hi isHi.mem
  have ordered := bounds_le isLo isHi
  have between : InRange (hi.toInt - lo.toInt) := by
    rw [Arithmetic.inRange_iff] at *
    omega
  rw [sub_ints between, Number.int.injEq, ← Int64.toInt_inj, toInt_ofInt_of_inRange between,
    toInt_ofInt_of_inRange inRange, ← Int64.toInt_inj, ← Int64.toInt_inj]
  omega

end Range

section Median

variable {rank : Int64 → Int} {values sorted : List Int64} {middle : Int64} {position : Nat}

/-- A list in ascending order of rank has the values below a rank first, then those of the rank,
then those above. -/
theorem split_of_ascending (ascends : sorted.Pairwise fun left right => rank left ≤ rank right)
    (level : Int) :
    sorted = sorted.filter (rank · < level) ++ sorted.filter (rank · = level) ++
      sorted.filter (level < rank ·) := by
  induction sorted with
  | nil => rfl
  | cons first rest induction =>
      obtain ⟨least, restAscends⟩ := List.pairwise_cons.mp ascends
      have later := induction restAscends
      have noneBelow : level ≤ rank first → rest.filter (rank · < level) = [] := by
        intro reached
        rw [List.filter_eq_nil_iff]
        intro other member
        have above := least other member
        simp only [decide_eq_true_eq]
        omega
      have noneLevel : level < rank first → rest.filter (rank · = level) = [] := by
        intro passed
        rw [List.filter_eq_nil_iff]
        intro other member
        have above := least other member
        simp only [decide_eq_true_eq]
        omega
      obtain less | same | more := Int.lt_trichotomy (rank first) level
      · have notLevel : ¬rank first = level := Int.ne_of_lt less
        have notAbove : ¬level < rank first := Int.not_lt.mpr (Int.le_of_lt less)
        simp only [List.filter_cons, less, notLevel, notAbove, decide_true, decide_false, if_true,
          Bool.false_eq_true, if_false, List.cons_append]
        rw [← later]
      · have reached := noneBelow (Int.le_of_eq same.symm)
        rw [reached] at later
        simp only [List.filter_cons, same, Int.lt_irrefl, decide_true, decide_false, if_true,
          Bool.false_eq_true, if_false, reached, List.nil_append, List.cons_append]
        rw [List.nil_append] at later
        rw [← later]
      · have notBelow : ¬rank first < level := Int.not_lt.mpr (Int.le_of_lt more)
        have notLevel : ¬rank first = level := Int.ne_of_gt more
        have reached := noneBelow (Int.le_of_lt more)
        have passed := noneLevel more
        rw [reached, passed] at later
        simp only [List.filter_cons, more, notBelow, notLevel, decide_true, decide_false, if_true,
          Bool.false_eq_true, if_false, reached, passed, List.nil_append]
        rw [List.nil_append, List.nil_append] at later
        rw [← later]

/-- A value in ascending order stands behind all of lower rank, among those of its rank. -/
theorem getElem?_ascending (ascends : sorted.Pairwise fun left right => rank left ≤ rank right)
    (there : sorted[position]? = some middle) :
    (sorted.filter (rank · < rank middle)).length ≤ position ∧
      (sorted.filter (rank · = rank middle))[position -
        (sorted.filter (rank · < rank middle)).length]? = some middle := by
  rw [split_of_ascending ascends (rank middle), List.append_assoc] at there
  have reached : (sorted.filter (rank · < rank middle)).length ≤ position := by
    apply Nat.not_lt.mp
    intro before
    rw [List.getElem?_append_left before] at there
    have below := (List.mem_filter.mp (List.mem_of_getElem? there)).2
    simp at below
  refine ⟨reached, ?_⟩
  rw [List.getElem?_append_right reached] at there
  obtain inLevel | passed := Nat.lt_or_ge
    (position - (sorted.filter (rank · < rank middle)).length)
    (sorted.filter (rank · = rank middle)).length
  · rwa [List.getElem?_append_left inLevel] at there
  · rw [List.getElem?_append_right passed] at there
    have above := (List.mem_filter.mp (List.mem_of_getElem? there)).2
    simp at above

/-- Integers in ascending order. -/
def ascending (values : List Int64) : List Int64 :=
  values.mergeSort fun left right => left.toInt ≤ right.toInt

/-- Integers in the order of their nearest floats, which leaves those with one float in place. -/
def byNearest (values : List Int64) : List Int64 :=
  values.mergeSort fun left right => nearestRank left ≤ nearestRank right

theorem rank_trans (rank : Int64 → Int) (first second third : Int64)
    (lower : decide (rank first ≤ rank second) = true)
    (upper : decide (rank second ≤ rank third) = true) :
    decide (rank first ≤ rank third) = true := by
  rw [decide_eq_true_eq] at *
  exact Int.le_trans lower upper

theorem rank_total (rank : Int64 → Int) (left right : Int64) :
    (decide (rank left ≤ rank right) || decide (rank right ≤ rank left)) = true := by
  rw [Bool.or_eq_true, decide_eq_true_eq, decide_eq_true_eq]
  exact Int.le_total _ _

theorem pairwise_mergeSort_rank (rank : Int64 → Int) (values : List Int64) :
    (values.mergeSort fun left right => rank left ≤ rank right).Pairwise fun left right =>
      rank left ≤ rank right := by
  have ascends := List.pairwise_mergeSort (rank_trans rank) (rank_total rank) values
  simpa only [decide_eq_true_eq] using ascends

/-- Sorting by rank leaves values of one rank in their order. -/
theorem filter_mergeSort (rank : Int64 → Int) (values : List Int64) (level : Int) :
    (values.mergeSort fun left right => rank left ≤ rank right).filter (rank · = level) =
      values.filter (rank · = level) := by
  refine filter_mergeSort_of_alike (rank_trans rank) (rank_total rank) ?_ values
  intro left right leftLevel rightLevel
  rw [decide_eq_true_eq] at *
  omega

/-- The middle integer and the one that the median shows have one nearest float. -/
theorem exists_middle (inside : position < values.length) :
    ∃ middle shown, (ascending values)[position]? = some middle ∧
      (byNearest values)[position]? = some shown ∧
      (values.filter (nearestRank · = nearestRank middle))[position -
        (values.filter (nearestRank · < nearestRank middle)).length]? = some shown := by
  have length : position < (ascending values).length := by
    rw [ascending, List.length_mergeSort]
    exact inside
  obtain ⟨middle, there⟩ : ∃ middle, (ascending values)[position]? = some middle :=
    ⟨_, List.getElem?_eq_getElem length⟩
  have ascends : (ascending values).Pairwise fun left right =>
      nearestRank left ≤ nearestRank right :=
    (pairwise_mergeSort_rank Int64.toInt values).imp nearestRank_le
  obtain ⟨reached, inLevel⟩ := getElem?_ascending ascends there
  -- both orders have as many integers below the level of the middle, and as many of that level
  have counted : ∀ (kept : Int64 → Bool) (le : Int64 → Int64 → Bool),
      ((values.mergeSort le).filter kept).length = (values.filter kept).length :=
    fun kept le => ((List.mergeSort_perm values le).filter kept).length_eq
  have enough := (List.getElem?_eq_some_iff.mp inLevel).1
  rw [ascending, counted] at reached
  rw [ascending, counted, counted] at enough
  refine ⟨middle, _, there, ?_, List.getElem?_eq_getElem enough⟩
  rw [byNearest,
    split_of_ascending (pairwise_mergeSort_rank nearestRank values) (nearestRank middle),
    List.append_assoc, List.getElem?_append_right (by rw [counted]; exact reached), counted,
    filter_mergeSort, List.getElem?_append_left enough, List.getElem?_eq_getElem enough]

theorem sorted_ints (values : List Int64) :
    ((values.map Number.int).mergeSort fun left right =>
      Cell.compareFloats left.toFloat right.toFloat != .gt) =
      (byNearest values).map Number.int := by
  symm
  apply List.map_mergeSort
  intro left _ right _
  rw [Number.toFloat, Number.toFloat, Cell.compareFloats, ← nearestRank, ← nearestRank,
    Bool.eq_iff_iff, decide_eq_true_eq, bne_iff_ne, ne_eq, Int.compare_eq_gt, Int.not_lt]

/-- The median of an odd number of integers is the middle one in the order of nearest floats. -/
theorem median_odd {cells : List Cell} (integral : Integral cells)
    (odd : (integers cells).length % 2 = 1) {shown : Int64}
    (there : (byNearest (integers cells))[(integers cells).length / 2]? = some shown) :
    Reducer.median cells = .ok (.int shown) := by
  have some : (integers cells).isEmpty = false := by
    rw [List.isEmpty_eq_false_iff]
    rintro none
    rw [none] at odd
    cases odd
  rw [median, integral.numbers_eq, Except.map, List.isEmpty_map, some]
  simp only [Bool.false_eq_true, if_false, medianOf, List.length_map, odd, beq_self_eq_true,
    if_true, sorted_ints, List.getElem?_map, there]
  rfl

end Median

theorem toCell_eq_int_iff {number : Number} {value : Int64} :
    number.toCell = .int value ↔ number = .int value := by
  cases number with
  | int other => simp [Number.toCell]
  | float x => simp [Number.toCell]

/-- Integers up to `2 ^ 53` on both sides of zero are told apart by their nearest floats. -/
theorem toldApart_of_small {values : List Int64}
    (small : ∀ value ∈ values, value.toInt.natAbs ≤ 2 ^ 53) : ToldApart values := by
  intro value member other isOther same
  have bounds := small value member
  have otherBounds := small other isOther
  rw [nearestRank, nearestRank, Cell.floatRank_floatOfInt, Cell.floatRank_floatOfInt] at same
  obtain less | equal | more := Int.lt_trichotomy value.toInt other.toInt
  · exact absurd same (Int.ne_of_lt (Cell.intRank_lt less (by omega) (by omega)))
  · exact Int64.toInt_inj.mp equal
  · exact absurd same (Int.ne_of_gt (Cell.intRank_lt more (by omega) (by omega)))

/-- Range and median of integers and missing cells.  Minimum and maximum are the least and the
greatest integer.  The range is the difference of the first integer whose nearest float is
greatest and the first one whose nearest float is least; when the difference of maximum and
minimum is in range, the range is that difference exactly when these are the two.  The median of
an odd number of integers has the nearest float of the middle integer in ascending order: of
those with this float it is, in the order of the cells, the one that stands as far from the first
as the middle stands behind all that have a lesser float.  Both are exact when no two different
integers share their nearest float, as those up to `2 ^ 53` on both sides of zero do not. -/
theorem spread_of_integers (cells : List Cell) (integral : Integral cells)
    (some : integers cells ≠ []) :
    ∃ lo hi least greatest, IsFirstLeast nearestRank (integers cells) lo ∧
      IsFirstLeast (fun value => -nearestRank value) (integers cells) hi ∧
      IsMinimum (integers cells) least ∧ IsMaximum (integers cells) greatest ∧
      Reducer.min cells = .int least ∧ Reducer.max cells = .int greatest ∧
      Reducer.range cells = .ok ((Number.int hi).sub (.int lo)).toCell ∧
      (InRange (greatest.toInt - least.toInt) →
        (Reducer.range cells = .ok (.int (Int64.ofInt (greatest.toInt - least.toInt))) ↔
          lo = least ∧ hi = greatest)) ∧
      ((integers cells).length % 2 = 1 → ∃ middle shown,
        (ascending (integers cells))[(integers cells).length / 2]? = .some middle ∧
        ((integers cells).filter (nearestRank · = nearestRank middle))[
          (integers cells).length / 2 -
            ((integers cells).filter (nearestRank · < nearestRank middle)).length]? =
          .some shown ∧
        Reducer.median cells = .ok (.int shown) ∧
        (ToldApart (integers cells) → shown = middle)) ∧
      (ToldApart (integers cells) → lo = least ∧ hi = greatest) ∧
      ((∀ value ∈ integers cells, value.toInt.natAbs ≤ 2 ^ 53) →
        ToldApart (integers cells)) := by
  obtain ⟨lo, hi, isLo, isHi, folded⟩ := exists_bounds some
  obtain ⟨least, isMinimum, minimum⟩ := exists_isMinimum integral some
  obtain ⟨greatest, isMaximum, maximum⟩ := exists_isMaximum integral some
  have range : Reducer.range cells = .ok ((Number.int hi).sub (.int lo)).toCell := by
    rw [range_eq, integral.numbers_eq, Except.map, folded]
    rfl
  refine ⟨lo, hi, least, greatest, isLo, isHi, isMinimum, isMaximum, minimum, maximum, range,
    fun inRange => ?_, fun odd => ?_, fun apart => ⟨?_, ?_⟩, toldApart_of_small⟩
  · rw [range, ← range_exact_iff isLo isHi isMinimum isMaximum inRange, Except.ok.injEq,
      toCell_eq_int_iff]
  · have inside : (integers cells).length / 2 < (integers cells).length := by omega
    obtain ⟨middle, shown, isMiddle, place, isShown⟩ := exists_middle inside
    refine ⟨middle, shown, isMiddle, isShown, median_odd integral odd place, fun apart => ?_⟩
    obtain ⟨member, sameRank⟩ := List.mem_filter.mp (List.mem_of_getElem? isShown)
    rw [decide_eq_true_eq] at sameRank
    exact apart shown member middle (List.mem_mergeSort.mp (List.mem_of_getElem? isMiddle)) sameRank
  · have low := nearestRank_le (isMinimum.2 lo isLo.mem)
    exact apart lo isLo.mem least isMinimum.1 (Int.le_antisymm (isLo.le least isMinimum.1) low)
  · have high := nearestRank_le (isMaximum.2 hi isHi.mem)
    have above := Int.neg_le_neg_iff.mp (isHi.le greatest isMaximum.1)
    exact apart hi isHi.mem greatest isMaximum.1 (Int.le_antisymm high above)

/-- Requests per second, with a gap. -/
def rates : List Cell :=
  [.int 30, .null, .int (-4), .int 12]

theorem spread_of_integers_rates :
    Reducer.range rates = .ok (.int 34) ∧ Reducer.median rates = .ok (.int 12) := by
  obtain ⟨lo, hi, least, greatest, isLo, isHi, isMinimum, isMaximum, minimum, maximum, range,
    exactRange, odd, bounds, small⟩ := spread_of_integers rates (by decide) (by decide)
  have listed : integers rates = [30, -4, 12] := rfl
  have apart := small (by simp [listed])
  obtain ⟨middle, shown, isMiddle, -, median, exactMedian⟩ := odd (by decide)
  have sorted : ascending (integers rates) = [-4, 12, 30] := by
    change [30, -4, 12].mergeSort _ = _
    simp [List.mergeSort, List.MergeSort.Internal.splitInTwo]
  rw [sorted] at isMiddle
  cases isMiddle
  rw [exactMedian apart] at median
  cases minimum
  cases maximum
  exact ⟨(exactRange (by decide)).mpr (bounds apart), median⟩

/-- Two integers with one nearest float, the greater one twice. -/
def close : List Cell :=
  [.int 9007199254740993, .int 9007199254740992, .int 9007199254740993]

/-- Neither range nor median of the integers is exact. -/
theorem spread_close :
    Integral close ∧ Reducer.min close = .int 9007199254740992 ∧
      Reducer.max close = .int 9007199254740993 ∧ Reducer.range close = .ok (.int 0) ∧
      ascending (integers close) = [9007199254740992, 9007199254740993, 9007199254740993] ∧
      Reducer.median close = .ok (.int 9007199254740992) := by
  refine ⟨by decide, by decide +kernel, by decide +kernel, by decide +kernel, ?_, ?_⟩
  · change [9007199254740993, 9007199254740992, 9007199254740993].mergeSort _ = _
    simp [List.mergeSort, List.MergeSort.Internal.splitInTwo]
  · have inPlace : byNearest (integers close) = integers close :=
      List.mergeSort_of_pairwise (by decide +kernel)
    apply median_odd (by decide) (by decide)
    rw [inPlace]
    rfl

end LogPipe
