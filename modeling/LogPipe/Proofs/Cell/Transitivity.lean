import LogPipe.Proofs.Cell.Comparison
import LogPipe.Proofs.Cell.Rounding
import LogPipe.Proofs.Cell.Sorting

/-!
# Where the total preorder is transitive

The order that sorting uses compares two integers exactly and an integer with a float by the
float nearest to it.  So it is transitive until a float stands between two integers that it
is the nearest to.  Everything else is in order: cells of different ranks, numbers in other
mixtures, missing cells of all spellings, and lists of cells at any depth.
-/

namespace LogPipe

/-- The comparisons of a first cell with a second, of the second with a third and of the first
with the third fit together. -/
structure Chained (lower upper whole : Ordering) : Prop where
  of_eq_left : lower = .eq → whole = upper
  of_eq_right : upper = .eq → whole = lower
  of_same : lower = upper → whole = lower

namespace Chained

theorem equal : Chained .eq .eq .eq :=
  ⟨fun _ => rfl, fun _ => rfl, fun _ => rfl⟩

theorem of_compare {α : Type} [Ord α] [Std.TransOrd α] (first second third : α) :
    Chained (compare first second) (compare second third) (compare first third) where
  of_eq_left := fun same => Std.TransCmp.congr_left same
  of_eq_right := fun same => (Std.TransCmp.congr_right same).symm
  of_same := by
    intro same
    cases lower : compare first second with
    | lt => exact Std.TransCmp.lt_trans lower (same ▸ lower)
    | eq => exact Std.TransCmp.eq_trans lower (same ▸ lower)
    | gt => exact Std.TransCmp.gt_trans lower (same ▸ lower)

/-- The same comparisons read from the third to the first. -/
theorem flip {lower upper whole : Ordering} (chained : Chained lower upper whole) :
    Chained upper lower whole where
  of_eq_left := chained.of_eq_right
  of_eq_right := chained.of_eq_left
  of_same := fun same => (chained.of_same same.symm).trans same.symm

/-- Where the first comparisons are equal the next ones decide. -/
theorem next {lower upper whole lowerNext upperNext wholeNext : Ordering}
    (chained : Chained lower upper whole)
    (later : lower = .eq → upper = .eq → Chained lowerNext upperNext wholeNext) :
    Chained (lower.then lowerNext) (upper.then upperNext) (whole.then wholeNext) := by
  cases lower with
  | eq =>
      obtain rfl := chained.of_eq_left rfl
      cases whole with
      | eq => exact later rfl rfl
      | lt => exact ⟨fun _ => rfl, nofun, fun same => same.symm⟩
      | gt => exact ⟨fun _ => rfl, nofun, fun same => same.symm⟩
  | lt =>
      cases upper with
      | eq =>
          obtain rfl := chained.of_eq_right rfl
          exact ⟨nofun, fun _ => rfl, fun _ => rfl⟩
      | lt =>
          obtain rfl := chained.of_same rfl
          exact ⟨nofun, nofun, fun _ => rfl⟩
      | gt => exact ⟨nofun, nofun, nofun⟩
  | gt =>
      cases upper with
      | eq =>
          obtain rfl := chained.of_eq_right rfl
          exact ⟨nofun, fun _ => rfl, fun _ => rfl⟩
      | lt => exact ⟨nofun, nofun, nofun⟩
      | gt =>
          obtain rfl := chained.of_same rfl
          exact ⟨nofun, nofun, fun _ => rfl⟩

theorem ne_gt {lower upper whole : Ordering} (chained : Chained lower upper whole)
    (lowerLe : lower ≠ .gt) (upperLe : upper ≠ .gt) : whole ≠ .gt := by
  cases lower with
  | eq => rwa [chained.of_eq_left rfl]
  | gt => exact absurd rfl lowerLe
  | lt =>
      cases upper with
      | eq => rw [chained.of_eq_right rfl]; nofun
      | lt => rw [chained.of_same rfl]; nofun
      | gt => exact absurd rfl upperLe

end Chained

namespace Cell

open Float.Model Float.Model.UnpackedFloat

/-- All floats that are not numbers are one float. -/
theorem eq_of_isNaN {left right : Float} (isLeft : left.isNaN = true)
    (isRight : right.isNaN = true) : left = right := by
  have packed {x : Float} (isNaN : x.isNaN = true) :
      x.toModel.toBits.toBitVec = packedNaN Format.binary64 := by
    have unpacked : (UnpackedFloat.unpack Format.binary64 x.toModel.toBits.toBitVec).isNaN = true :=
      isNaN
    rw [UnpackedFloat.unpack] at unpacked
    split at unpacked
    · next all =>
        split at unpacked
        · cases unpacked
        · next some => exact x.toModel.valid.eq_packedNaN all some
    · split at unpacked
      · split at unpacked <;> cases unpacked
      · cases unpacked
  obtain ⟨⟨leftBits, leftValid⟩⟩ := left
  obtain ⟨⟨rightBits, rightValid⟩⟩ := right
  obtain rfl : leftBits = rightBits :=
    UInt64.toBitVec_inj.mp ((packed isLeft).trans (packed isRight).symm)
  rfl

/-- The comparison of two cells of one rank. -/
def compareAlike (left right : Cell) : Ordering :=
  match left, right with
  | .bool a, .bool b => compare a b
  | .int a, .int b => compareInts a b
  | .int a, .float b => compareFloats (floatOfInt a) b
  | .float a, .int b => compareFloats a (floatOfInt b)
  | .float a, .float b => compareFloats a b
  | .time a, .time b => compareInts a b
  | .text a, .text b => compare a b
  | .list as, .list bs => compareLists as bs
  | _, _ => .eq

theorem totalCompare_eq (left right : Cell) :
    left.totalCompare right = (compare left.rank right.rank).then (compareAlike left right) := by
  rw [totalCompare.eq_def]
  by_cases same : left.rank = right.rank
  · have equal : compare left.rank right.rank = .eq := Nat.compare_eq_eq.mpr same
    rw [equal, same, bne_self_eq_false]
    rfl
  · have differ : (left.rank != right.rank) = true := bne_iff_ne.mpr same
    rw [if_pos differ]
    cases ranks : compare left.rank right.rank with
    | eq => exact absurd (Nat.compare_eq_eq.mp ranks) same
    | lt => rfl
    | gt => rfl

theorem compareLists_nil : compareLists [] [] = .eq := by
  rw [compareLists]

theorem compareLists_nil_cons (item : Cell) (items : List Cell) :
    compareLists [] (item :: items) = .lt := by
  rw [compareLists]

theorem compareLists_cons_nil (item : Cell) (items : List Cell) :
    compareLists (item :: items) [] = .gt := by
  rw [compareLists]

theorem compareLists_cons (first second : Cell) (firsts seconds : List Cell) :
    compareLists (first :: firsts) (second :: seconds) =
      (first.totalCompare second).then (compareLists firsts seconds) := by
  rw [compareLists]
  cases first.totalCompare second <;> rfl

/-- What the rank of a cell says about it. -/
inductive Ranked : Cell → Nat → Prop where
  | missing {cell : Cell} (isMissing : cell.isMissing = true) : Ranked cell 0
  | bool (value : Bool) : Ranked (.bool value) 1
  | int (value : Int64) : Ranked (.int value) 2
  | float {x : Float} (isNumber : x.isNaN = false) : Ranked (.float x) 2
  | time (millis : Int64) : Ranked (.time millis) 3
  | text (value : String) : Ranked (.text value) 4
  | list (items : List Cell) : Ranked (.list items) 5

theorem ranked (cell : Cell) : Ranked cell cell.rank := by
  cases cell with
  | missing => exact .missing rfl
  | bool value => exact .bool value
  | int value => exact .int value
  | float x =>
      rw [rank.eq_def]
      cases isNaN : (Cell.float x).isMissing with
      | true => exact .missing isNaN
      | false => exact .float isNaN
  | time millis => exact .time millis
  | text value => exact .text value
  | list items => exact .list items

theorem compareAlike_missing {left right : Cell} (isLeft : left.isMissing = true)
    (isRight : right.isMissing = true) : compareAlike left right = .eq := by
  cases left with
  | float left =>
      cases right with
      | float right =>
          obtain rfl := eq_of_isNaN isLeft isRight
          exact Std.ReflOrd.compare_self
      | missing => rfl
      | _ => cases isRight
  | missing => cases right <;> rfl
  | _ => cases isLeft

mutual

/-- What a cell is made of: the cell itself, or what the items of a list are made of. -/
def parts : Cell → List Cell
  | .list items => partsOfItems items
  | cell => [cell]

/-- What the items of a list are made of. -/
def partsOfItems : List Cell → List Cell
  | [] => []
  | item :: items => item.parts ++ partsOfItems items

end

/-- The cell is made of some cells only. -/
def MadeOf (part : Cell → Prop) (cell : Cell) : Prop :=
  ∀ inner ∈ cell.parts, part inner

/-- Among some cells no float is the nearest one to two integers. -/
def Resolved (part : Cell → Prop) : Prop :=
  ∀ x a b, part (.float x) → part (.int a) → part (.int b) → floatOfInt a = x →
    floatOfInt b = x → a = b

section Numbers

/-- The place of a number in the total order of floats. -/
def numberRank : Cell → Int
  | .int value => floatRank (floatOfInt value)
  | .float x => floatRank x
  | _ => 0

/-- The comparison of two integers, where one float is the nearest to both. -/
def compareExactly : Cell → Cell → Ordering
  | .int a, .int b => compareInts a b
  | _, _ => .eq

/-- Numbers are compared as floats, and then two integers exactly. -/
theorem compareAlike_number {left right : Cell} (isLeft : Ranked left 2)
    (isRight : Ranked right 2) :
    compareAlike left right =
      (compare left.numberRank right.numberRank).then (compareExactly left right) := by
  cases isLeft with
  | float =>
      cases isRight with
      | float => exact Ordering.then_eq.symm
      | int => exact Ordering.then_eq.symm
  | int left =>
      cases isRight with
      | float => exact Ordering.then_eq.symm
      | int right =>
          have ordered := @floatRank_floatOfInt_le left right
          have turned := @floatRank_floatOfInt_le right left
          show compare left.toInt right.toInt =
            (compare (floatRank (floatOfInt left)) (floatRank (floatOfInt right))).then
              (compare left.toInt right.toInt)
          cases ranks : compare (floatRank (floatOfInt left)) (floatRank (floatOfInt right)) with
          | eq => rfl
          | lt =>
              rw [Int.compare_eq_lt] at ranks
              exact Int.compare_eq_lt.mpr (by omega)
          | gt =>
              rw [Int.compare_eq_gt] at ranks
              exact Int.compare_eq_gt.mpr (by omega)

variable {part : Cell → Prop} (resolved : Resolved part)

include resolved

/-- A float is the nearest one to at most one integer, so two integers of its place are equal. -/
theorem compareExactly_eq {x : Float} {left right : Cell} (isPart : part (.float x))
    (leftPart : part left) (rightPart : part right)
    (leftPlace : left.numberRank = floatRank x) (rightPlace : right.numberRank = floatRank x) :
    compareExactly left right = .eq := by
  cases left with
  | int left =>
      cases right with
      | int right =>
          obtain rfl := resolved x left right isPart leftPart rightPart
            (eq_of_floatRank_eq leftPlace) (eq_of_floatRank_eq rightPlace)
          exact Std.ReflOrd.compare_self
      | _ => rfl
  | _ => rfl

theorem chained_numbers {first second third : Cell} (isFirst : Ranked first 2)
    (isSecond : Ranked second 2) (isThird : Ranked third 2) (firstPart : part first)
    (secondPart : part second) (thirdPart : part third) :
    Chained (compareAlike first second) (compareAlike second third)
      (compareAlike first third) := by
  rw [compareAlike_number isFirst isSecond, compareAlike_number isSecond isThird,
    compareAlike_number isFirst isThird]
  refine (Chained.of_compare _ _ _).next fun lower upper => ?_
  rw [Int.compare_eq_eq] at lower upper
  have near {x : Float} (isPart : part (.float x)) (place : second.numberRank = floatRank x) :
      Chained (compareExactly first second) (compareExactly second third)
        (compareExactly first third) := by
    rw [compareExactly_eq resolved isPart firstPart secondPart (lower.trans place) place,
      compareExactly_eq resolved isPart secondPart thirdPart place (upper.symm.trans place),
      compareExactly_eq resolved isPart firstPart thirdPart (lower.trans place)
        (upper.symm.trans place)]
    exact .equal
  cases isSecond with
  | float => exact near secondPart rfl
  | int =>
      cases isFirst with
      | float => exact near firstPart lower.symm
      | int =>
          cases isThird with
          | float => exact near thirdPart upper
          | int => exact .of_compare (Int64.toInt _) _ _

end Numbers

section Preorder

variable {part : Cell → Prop}

theorem MadeOf.item {item : Cell} {items : List Cell} (made : MadeOf part (.list (item :: items))) :
    MadeOf part item := by
  intro inner isPart
  exact made inner (by simp [parts, partsOfItems, isPart])

theorem MadeOf.items {item : Cell} {items : List Cell}
    (made : MadeOf part (.list (item :: items))) :
    MadeOf part (.list items) := by
  intro inner isPart
  rw [parts] at isPart
  exact made inner (by simp [parts, partsOfItems, isPart])

/-- Cells of one rank are in order, if lists are. -/
theorem chained_alike (resolved : Resolved part) {first second third : Cell} {place : Nat}
    (isFirst : Ranked first place) (isSecond : Ranked second place)
    (isThird : Ranked third place) (firstMade : MadeOf part first)
    (secondMade : MadeOf part second) (thirdMade : MadeOf part third)
    (lists : ∀ firsts seconds thirds, first = .list firsts → second = .list seconds →
      third = .list thirds → Chained (compareLists firsts seconds) (compareLists seconds thirds)
        (compareLists firsts thirds)) :
    Chained (compareAlike first second) (compareAlike second third)
      (compareAlike first third) := by
  have number {cell : Cell} (isNumber : Ranked cell 2) (made : MadeOf part cell) : part cell := by
    cases isNumber with
    | int value => exact made _ (List.mem_singleton_self _)
    | float => exact made _ (List.mem_singleton_self _)
  have numbers (isFirst : Ranked first 2) (isSecond : Ranked second 2) (isThird : Ranked third 2) :=
    chained_numbers resolved isFirst isSecond isThird (number isFirst firstMade)
      (number isSecond secondMade) (number isThird thirdMade)
  cases isFirst with
  | missing first =>
      cases isSecond with
      | missing second =>
          cases isThird with
          | missing third =>
              rw [compareAlike_missing first second, compareAlike_missing second third,
                compareAlike_missing first third]
              exact .equal
  | bool =>
      cases isSecond with
      | bool =>
          cases isThird with
          | bool => exact .of_compare _ _ _
  | int value => exact numbers (.int value) isSecond isThird
  | float isNumber => exact numbers (.float isNumber) isSecond isThird
  | time =>
      cases isSecond with
      | time =>
          cases isThird with
          | time => exact .of_compare (Int64.toInt _) _ _
  | text =>
      cases isSecond with
      | text =>
          cases isThird with
          | text => exact .of_compare _ _ _
  | list firsts =>
      cases isSecond with
      | list seconds =>
          cases isThird with
          | list thirds => exact lists firsts seconds thirds rfl rfl rfl

mutual

/-- Cells that are made of such cells are in order. -/
theorem chained_totalCompare (resolved : Resolved part) (first second third : Cell)
    (firstMade : MadeOf part first) (secondMade : MadeOf part second)
    (thirdMade : MadeOf part third) :
    Chained (first.totalCompare second) (second.totalCompare third)
      (first.totalCompare third) := by
  rw [totalCompare_eq, totalCompare_eq, totalCompare_eq]
  refine (Chained.of_compare _ _ _).next fun lower upper => ?_
  rw [Nat.compare_eq_eq] at lower upper
  refine chained_alike resolved first.ranked (lower ▸ second.ranked)
    (lower ▸ upper ▸ third.ranked) firstMade secondMade thirdMade ?_
  rintro firsts seconds thirds rfl rfl rfl
  exact chained_compareLists resolved firsts seconds thirds firstMade secondMade thirdMade

/-- List counterpart of `chained_totalCompare`. -/
theorem chained_compareLists (resolved : Resolved part) (firsts seconds thirds : List Cell)
    (firstMade : MadeOf part (.list firsts)) (secondMade : MadeOf part (.list seconds))
    (thirdMade : MadeOf part (.list thirds)) :
    Chained (compareLists firsts seconds) (compareLists seconds thirds)
      (compareLists firsts thirds) := by
  match firsts, seconds, thirds with
  | [], [], [] =>
      simp only [compareLists_nil]
      exact .equal
  | [], [], _ :: _ =>
      simp only [compareLists_nil, compareLists_nil_cons]
      exact ⟨fun _ => rfl, nofun, nofun⟩
  | [], _ :: _, [] =>
      simp only [compareLists_nil, compareLists_nil_cons, compareLists_cons_nil]
      exact ⟨nofun, nofun, nofun⟩
  | [], _ :: _, _ :: _ =>
      simp only [compareLists_nil_cons]
      exact ⟨nofun, fun _ => rfl, fun _ => rfl⟩
  | _ :: _, [], [] =>
      simp only [compareLists_nil, compareLists_cons_nil]
      exact ⟨nofun, fun _ => rfl, nofun⟩
  | _ :: _, [], _ :: _ =>
      simp only [compareLists_nil_cons, compareLists_cons_nil]
      exact ⟨nofun, nofun, nofun⟩
  | _ :: _, _ :: _, [] =>
      simp only [compareLists_cons_nil]
      exact ⟨fun _ => rfl, nofun, fun same => same.symm⟩
  | first :: firsts, second :: seconds, third :: thirds =>
      rw [compareLists_cons, compareLists_cons, compareLists_cons]
      exact (chained_totalCompare resolved first second third firstMade.item secondMade.item
        thirdMade.item).next fun _ _ =>
          chained_compareLists resolved firsts seconds thirds firstMade.items secondMade.items
            thirdMade.items

end

end Preorder

theorem totalCompare_self (cell : Cell) : cell.totalCompare cell = .eq := by
  have turned := totalCompare_swap cell cell
  cases found : cell.totalCompare cell with
  | eq => rfl
  | lt => rw [found] at turned; cases turned
  | gt => rw [found] at turned; cases turned

theorem totalCompare_int (left right : Int64) :
    (Cell.int left).totalCompare (.int right) = compare left.toInt right.toInt := by
  rw [totalCompare_eq]
  rfl

theorem totalCompare_nearest (value : Int64) :
    (Cell.int value).totalCompare (.float (floatOfInt value)) = .eq := by
  have place : (Cell.float (floatOfInt value)).rank = 2 := by
    rw [rank.eq_def, isMissing, isNaN_floatOfInt]
    rfl
  rw [totalCompare_eq, place]
  exact Std.ReflOrd.compare_self

/-- Where the order is transitive no float is the nearest one to two integers. -/
theorem resolved_of_trans {part : Cell → Prop}
    (trans : ∀ first second third, MadeOf part first → MadeOf part second → MadeOf part third →
      first.totalCompare second ≠ .gt → second.totalCompare third ≠ .gt →
      first.totalCompare third ≠ .gt) : Resolved part := by
  have madeInt {value : Int64} (isPart : part (.int value)) : MadeOf part (.int value) :=
    List.forall_mem_singleton.mpr isPart
  have madeFloat {x : Float} (isPart : part (.float x)) : MadeOf part (.float x) :=
    List.forall_mem_singleton.mpr isPart
  have le {x : Float} {a b : Int64} (isPart : part (.float x)) (aPart : part (.int a))
      (bPart : part (.int b)) (aNear : floatOfInt a = x) (bNear : floatOfInt b = x) :
      a.toInt ≤ b.toInt := by
    have lower : (Cell.int a).totalCompare (.float x) ≠ .gt := by
      rw [← aNear, totalCompare_nearest]
      nofun
    have upper : (Cell.float x).totalCompare (.int b) ≠ .gt := by
      rw [totalCompare_swap (.int b), ← bNear, totalCompare_nearest]
      nofun
    have whole := trans _ _ _ (madeInt aPart) (madeFloat isPart) (madeInt bPart) lower upper
    rw [totalCompare_int, ne_eq, Int.compare_eq_gt] at whole
    omega
  intro x a b isPart aPart bPart aNear bNear
  have lower := le isPart aPart bPart aNear bNear
  have upper := le isPart bPart aPart bNear aNear
  exact Int64.toInt_inj.mp (by omega)

/-- Integers up to `2 ^ 53` on both sides of zero are the floats nearest to them. -/
theorem resolved_of_small {part : Cell → Prop}
    (small : ∀ value, part (.int value) → -2 ^ 53 ≤ value.toInt ∧ value.toInt ≤ 2 ^ 53) :
    Resolved part := by
  intro x a b _ aPart bPart aNear bNear
  have same : intRank a.toInt = intRank b.toInt := by
    rw [← floatRank_floatOfInt, ← floatRank_floatOfInt, aNear, bNear]
  obtain ⟨aLow, aHigh⟩ := small a aPart
  obtain ⟨bLow, bHigh⟩ := small b bPart
  obtain lower | equal | upper := lt_trichotomy a.toInt b.toInt
  · have apart := intRank_lt lower aLow bHigh
    omega
  · exact Int64.toInt_inj.mp equal
  · have apart := intRank_lt upper bLow aHigh
    omega

/-- The order of sorting is reflexive, and it is turned around with its operands.  It is
transitive on the cells that are made of some cells exactly when among these no float is the
nearest one to two integers, for example when no integer is beyond `2 ^ 53`. -/
theorem totalCompare_trans_iff (part : Cell → Prop) :
    (∀ cell : Cell, cell.totalCompare cell = .eq) ∧
    (∀ left right : Cell, right.totalCompare left = (left.totalCompare right).swap) ∧
    ((∀ first second third, MadeOf part first → MadeOf part second → MadeOf part third →
      first.totalCompare second ≠ .gt → second.totalCompare third ≠ .gt →
      first.totalCompare third ≠ .gt) ↔ Resolved part) ∧
    ((∀ value, part (.int value) → -2 ^ 53 ≤ value.toInt ∧ value.toInt ≤ 2 ^ 53) →
      Resolved part) := by
  refine ⟨totalCompare_self, totalCompare_swap, ⟨resolved_of_trans, ?_⟩, resolved_of_small⟩
  intro resolved first second third firstMade secondMade thirdMade lower upper
  exact (chained_totalCompare resolved first second third firstMade secondMade thirdMade).ne_gt
    lower upper

/-- Between two neighbouring integers stands the float that is the nearest one to both. -/
theorem totalCompare_not_transitive :
    ¬∀ first second third : Cell, first.totalCompare second ≠ .gt →
      second.totalCompare third ≠ .gt → first.totalCompare third ≠ .gt := by
  intro trans
  exact trans (.int 9007199254740993) (.float (Float.ofBits 0x4340000000000000))
    (.int 9007199254740992) (by decide +kernel) (by decide +kernel) (by decide +kernel)

end Cell

end LogPipe
