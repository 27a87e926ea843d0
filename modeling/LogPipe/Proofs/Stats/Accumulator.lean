import LogPipe.Stats.Running
import LogPipe.Proofs.Except

/-!
# Accumulators and reducers

An accumulator that has taken some cells tracks them: for each function it holds what
the reducer of that function would compute from the list of the cells.  One more cell is
taken exactly when the reducer accepts the longer list, and the accumulator tracks the
longer list afterwards.
-/

namespace LogPipe

/-- Folds a list from its first item; nothing for the empty list. -/
def foldFrom {α β : Type} (start : α → β) (step : β → α → β) : List α → Option β
  | [] => none
  | first :: rest => some (rest.foldl step (start first))

theorem foldFrom_eq_none_iff {α β : Type} {start : α → β} {step : β → α → β} {items : List α} :
    foldFrom start step items = none ↔ items = [] := by
  cases items with
  | nil => simp [foldFrom]
  | cons first rest => simp [foldFrom]

/-- Folding goes on behind what has been reached. -/
theorem foldFrom_append {α β : Type} {start : α → β} {step : β → α → β} {before : List α}
    {reached : β} (folded : foldFrom start step before = some reached) (after : List α) :
    foldFrom start step (before ++ after) = some (after.foldl step reached) := by
  cases before with
  | nil => cases folded
  | cons first rest =>
      cases folded
      rw [List.cons_append, foldFrom, List.foldl_append]

theorem foldFrom_append_singleton {α β : Type} (start : α → β) (step : β → α → β)
    (items : List α) (item : α) :
    foldFrom start step (items ++ [item]) =
      some (((foldFrom start step items).map fun reached => step reached item).getD
        (start item)) := by
  cases items with
  | nil => rfl
  | cons first rest =>
      simp only [foldFrom, List.cons_append, List.foldl_append, List.foldl_cons, List.foldl_nil,
        Option.map_some, Option.getD_some]

namespace Number

theorem ofCells_append (before after : List Cell) :
    ofCells (before ++ after) =
      (ofCells before >>= fun first => (ofCells after).map (first ++ ·)) := by
  induction before with
  | nil =>
      change ofCells after = (ofCells after).map ([] ++ ·)
      cases ofCells after with
      | error error => rfl
      | ok found => rfl
  | cons cell cells induction =>
      simp only [List.cons_append, ofCells, induction]
      cases ofCell cell with
      | error error => rfl
      | ok number =>
          cases ofCells cells with
          | error error => rfl
          | ok found =>
              cases ofCells after with
              | error error => rfl
              | ok rest => rfl

end Number

namespace Reducer

theorem present_append (before after : List Cell) :
    present (before ++ after) = present before ++ present after :=
  List.filter_append before after

theorem present_missing {cell : Cell} (missing : cell.isMissing = true) : present [cell] = [] := by
  simp [present, missing]

theorem present_found {cell : Cell} (found : cell.isMissing = false) : present [cell] = [cell] := by
  simp [present, found]

theorem present_present (cells : List Cell) : present (present cells) = present cells := by
  simp only [present, List.filter_filter, Bool.and_self]

theorem numbers_append (before after : List Cell) :
    numbers (before ++ after) =
      (numbers before >>= fun first => (numbers after).map (first ++ ·)) := by
  rw [numbers, present_append, Number.ofCells_append]
  rfl

/-- A list with a part that has no numbers has none either. -/
theorem numbers_append_error {before : List Cell} {error : CellError}
    (failed : numbers before = .error error) (after : List Cell) :
    numbers (before ++ after) = .error error := by
  rw [numbers_append, failed]
  rfl

theorem numbers_append_present {cells : List Cell} {found : List Number} {cell : Cell}
    (before : numbers cells = .ok found) (there : cell.isMissing = false) :
    numbers (cells ++ [cell]) =
      (Number.ofCell cell).map fun number => found ++ [number] := by
  have single : numbers [cell] = (Number.ofCell cell).map fun number => [number] := by
    rw [numbers, present_found there]
    simp only [Number.ofCells]
    cases Number.ofCell cell with
    | error error => rfl
    | ok number => rfl
  rw [numbers_append, before, single]
  cases Number.ofCell cell with
  | error error => rfl
  | ok number => rfl

theorem numbers_push {cells : List Cell} {found : List Number} {cell : Cell} {number : Number}
    (before : numbers cells = .ok found) (there : cell.isMissing = false)
    (isNumber : Number.ofCell cell = .ok number) :
    numbers (cells ++ [cell]) = .ok (found ++ [number]) := by
  rw [numbers_append_present before there, isNumber]
  rfl

/-- The better of two cells, the earlier one when neither is. -/
def better (wanted : Ordering) (best cell : Cell) : Cell :=
  if cell.totalCompare best == wanted then cell else best

theorem extreme_eq (wanted : Ordering) (cells : List Cell) :
    extreme wanted cells = (foldFrom id (better wanted) (present cells)).getD .null := by
  rw [extreme]
  cases present cells with
  | nil => rfl
  | cons first rest => rfl

theorem sum_eq (cells : List Cell) :
    sum cells = (numbers cells).map fun found =>
      ((foldFrom id Number.add found).map Number.toCell).getD .null := by
  rw [sum]
  cases numbers cells with
  | error error => rfl
  | ok found =>
      cases found with
      | nil => rfl
      | cons first rest => rfl

/-- The average that divides the sum of the numbers.  The reducer adds their floats instead. -/
def keptMean (cells : List Cell) : Except CellError Cell :=
  (numbers cells).map fun found =>
    ((foldFrom id Number.add found).map fun sum =>
      Cell.float (sum.toFloat / Float.ofNat found.length)).getD .null

theorem range_eq (cells : List Cell) :
    range cells = (numbers cells).map fun found =>
      ((foldFrom (fun number => (number, number)) widen found).map fun bounds =>
        (bounds.2.sub bounds.1).toCell).getD .null := by
  rw [range]
  cases numbers cells with
  | error error => rfl
  | ok found =>
      cases found with
      | nil => rfl
      | cons first rest => rfl

end Reducer

namespace AggregateFunction

/-- Whether a function needs every present cell to be a number. -/
def isNumeric : AggregateFunction → Bool
  | .sum | .mean | .median | .range => true
  | _ => false

/-- A reducer fails only on present cells that are no numbers. -/
theorem reduce_error_iff {function : AggregateFunction} {cells : List Cell} :
    (∃ error, function.reduce cells = .error error) ↔
      function.isNumeric = true ∧ ∃ error, Reducer.numbers cells = .error error := by
  cases function with
  | sum => simp only [reduce, Reducer.sum, Except.exists_map_error_iff, isNumeric,
      true_and]
  | mean => simp only [reduce, Reducer.mean, Except.exists_map_error_iff, isNumeric,
      true_and]
  | median => simp only [reduce, Reducer.median, Except.exists_map_error_iff, isNumeric,
      true_and]
  | range => simp only [reduce, Reducer.range, Except.exists_map_error_iff, isNumeric,
      true_and]
  | _ => simp [reduce, isNumeric]

/-- A reducer that fails on the first cells fails on all. -/
theorem reduce_append_error {function : AggregateFunction} {before : List Cell}
    (failed : ∃ error, function.reduce before = .error error) (after : List Cell) :
    ∃ error, function.reduce (before ++ after) = .error error := by
  obtain ⟨numeric, error, broken⟩ := reduce_error_iff.mp failed
  exact reduce_error_iff.mpr ⟨numeric, error, Reducer.numbers_append_error broken after⟩

/-- What a running form shows for the cells so far: the first and the last cell are shown
missing or not, the average divides the sum that is kept, and every other function reduces. -/
def soFar (function : AggregateFunction) (cells : List Cell) : Except CellError Cell :=
  match function with
  | .first => .ok (cells.head?.getD .null)
  | .last => .ok (cells.getLast?.getD .null)
  | .mean => Reducer.keptMean cells
  | function => function.reduce cells

end AggregateFunction

namespace Running

open Reducer

/-- An accumulator that has taken some cells for a function. -/
def Tracks (function : AggregateFunction) (cells : List Cell) (state : Running) : Prop :=
  match function with
  | .count => state.count = (present cells).length
  | .sum => ∃ found, numbers cells = .ok found ∧ state.sum = foldFrom id Number.add found
  | .mean =>
      ∃ found, numbers cells = .ok found ∧ state.sum = foldFrom id Number.add found ∧
        state.count = found.length
  | .min => state.extreme = foldFrom id (better .lt) (present cells)
  | .max => state.extreme = foldFrom id (better .gt) (present cells)
  | .median => (∃ found, numbers cells = .ok found) ∧ state.seen = present cells
  | .mode => state.seen = present cells
  | .distinctCount => state.distinct = Tally.ofCells (present cells)
  | .values => state.distinct = Tally.ofCells (present cells)
  | .first => state.first = cells.head?
  | .last => state.last = cells.getLast?
  | .range =>
      ∃ found, numbers cells = .ok found ∧
        state.bounds = foldFrom (fun number => (number, number)) widen found

theorem tracks_start (function : AggregateFunction) : Tracks function [] {} := by
  cases function with
  | sum => exact ⟨[], rfl, rfl⟩
  | mean => exact ⟨[], rfl, rfl, rfl⟩
  | median => exact ⟨⟨[], rfl⟩, rfl⟩
  | range => exact ⟨[], rfl, rfl⟩
  | _ => rfl

variable {function : AggregateFunction} {cells : List Cell} {state next : Running} {cell : Cell}

/-- Only the first and the last cell of a group may be missing ones. -/
theorem Tracks.skip (tracks : Tracks function cells state) (notFirst : function ≠ .first)
    (notLast : function ≠ .last) (missing : cell.isMissing = true) :
    Tracks function (cells ++ [cell]) state := by
  have samePresent : present (cells ++ [cell]) = present cells := by
    rw [present_append, present_missing missing, List.append_nil]
  have sameNumbers : numbers (cells ++ [cell]) = numbers cells := by
    rw [numbers, samePresent, numbers]
  cases function with
  | first => exact absurd rfl notFirst
  | last => exact absurd rfl notLast
  | _ =>
      simp only [Tracks, samePresent, sameNumbers] at tracks ⊢
      exact tracks

/-- A better cell takes the place of the best one. -/
theorem extreme_improve (wanted : Ordering) (state : Running) (cell : Cell) :
    (match state.extreme with
      | some best =>
          if cell.totalCompare best == wanted then { state with extreme := some cell } else state
      | none => { state with extreme := some cell }).extreme =
      some ((state.extreme.map fun best => better wanted best cell).getD (id cell)) := by
  cases held : state.extreme with
  | none => rfl
  | some best =>
      simp only [Option.map_some, Option.getD_some, better]
      by_cases improves : (cell.totalCompare best == wanted) = true
      · rw [if_pos improves, if_pos improves]
      · rw [if_neg improves, if_neg improves, held]

theorem Tracks.pushPresent (tracks : Tracks function cells state)
    (there : cell.isMissing = false) (notFirst : function ≠ .first) (notLast : function ≠ .last)
    (pushed : state.pushPresent function cell = .ok next) :
    Tracks function (cells ++ [cell]) next := by
  have morePresent : present (cells ++ [cell]) = present cells ++ [cell] := by
    rw [present_append, present_found there]
  cases function with
  | count =>
      cases pushed
      simp only [Tracks] at tracks ⊢
      rw [morePresent, List.length_append, tracks]
      rfl
  | sum =>
      obtain ⟨found, counted, total⟩ := tracks
      obtain ⟨number, isNumber, rfl⟩ := Except.map_eq_ok_iff.mp pushed
      refine ⟨found ++ [number], numbers_push counted there isNumber, ?_⟩
      rw [foldFrom_append_singleton, ← total]
      rfl
  | mean =>
      obtain ⟨found, counted, total, length⟩ := tracks
      obtain ⟨number, isNumber, rfl⟩ := Except.map_eq_ok_iff.mp pushed
      refine ⟨found ++ [number], numbers_push counted there isNumber, ?_, ?_⟩
      · rw [foldFrom_append_singleton, ← total]
        rfl
      · rw [List.length_append, List.length_singleton, ← length]
  | range =>
      obtain ⟨found, counted, bounds⟩ := tracks
      obtain ⟨number, isNumber, rfl⟩ := Except.map_eq_ok_iff.mp pushed
      refine ⟨found ++ [number], numbers_push counted there isNumber, ?_⟩
      rw [foldFrom_append_singleton, ← bounds]
  | min =>
      cases pushed
      simp only [Tracks] at tracks ⊢
      rw [morePresent, foldFrom_append_singleton, ← tracks]
      exact extreme_improve .lt { state with count := state.count + 1 } cell
  | max =>
      cases pushed
      simp only [Tracks] at tracks ⊢
      rw [morePresent, foldFrom_append_singleton, ← tracks]
      exact extreme_improve .gt { state with count := state.count + 1 } cell
  | median =>
      obtain ⟨⟨found, counted⟩, seen⟩ := tracks
      obtain ⟨number, isNumber, rfl⟩ := Except.map_eq_ok_iff.mp pushed
      refine ⟨⟨found ++ [number], numbers_push counted there isNumber⟩, ?_⟩
      rw [morePresent, ← seen]
  | mode =>
      cases pushed
      simp only [Tracks] at tracks ⊢
      rw [morePresent, tracks]
  | distinctCount =>
      cases pushed
      simp only [Tracks] at tracks ⊢
      rw [morePresent, Tally.ofCells, List.foldl_append, tracks]
      rfl
  | values =>
      cases pushed
      simp only [Tracks] at tracks ⊢
      rw [morePresent, Tally.ofCells, List.foldl_append, tracks]
      rfl
  | first => exact absurd rfl notFirst
  | last => exact absurd rfl notLast

/-- An accumulator that takes one more cell tracks the longer list. -/
theorem Tracks.push (tracks : Tracks function cells state)
    (pushed : state.push function cell = .ok next) : Tracks function (cells ++ [cell]) next := by
  by_cases isFirst : function = .first
  · subst isFirst
    cases pushed
    simp only [Tracks] at tracks ⊢
    rw [tracks, List.head?_append]
    cases cells.head? with
    | none => rfl
    | some earliest => rfl
  by_cases isLast : function = .last
  · subst isLast
    cases pushed
    simp only [Tracks]
    rw [List.getLast?_concat]
  have skips : state.push function cell =
      if cell.isMissing then .ok state else state.pushPresent function cell := by
    cases function with
    | first => exact absurd rfl isFirst
    | last => exact absurd rfl isLast
    | _ => rfl
  rw [skips] at pushed
  by_cases missing : cell.isMissing = true
  · rw [if_pos missing] at pushed
    cases pushed
    exact tracks.skip isFirst isLast missing
  · rw [if_neg missing] at pushed
    exact tracks.pushPresent (Bool.eq_false_iff.mpr missing) isFirst isLast pushed

/-- What an accumulator tracks has been accepted by the reducer. -/
theorem Tracks.not_reduce_error (tracks : Tracks function cells state) :
    ¬∃ error, function.reduce cells = .error error := by
  rw [AggregateFunction.reduce_error_iff]
  rintro ⟨numeric, error, failed⟩
  have counted : ∃ found, numbers cells = .ok found := by
    cases function with
    | sum => exact ⟨tracks.choose, tracks.choose_spec.1⟩
    | mean => exact ⟨tracks.choose, tracks.choose_spec.1⟩
    | median => exact tracks.1
    | range => exact ⟨tracks.choose, tracks.choose_spec.1⟩
    | _ => cases numeric
  obtain ⟨found, isFound⟩ := counted
  rw [failed] at isFound
  cases isFound

/-- A cell that is refused is refused by the reducer as well. -/
theorem Tracks.reduce_error_of_push (tracks : Tracks function cells state) {error : CellError}
    (failed : state.push function cell = .error error) :
    ∃ other, function.reduce (cells ++ [cell]) = .error other := by
  have isPresent : cell.isMissing = false := by
    cases missing : cell.isMissing with
    | false => rfl
    | true => cases function <;> simp [Running.push, missing] at failed
  have refused : ∀ {view : Number → Running} {found : List Number},
      numbers cells = .ok found → (Number.ofCell cell).map view = .error error →
        numbers (cells ++ [cell]) = .error error := by
    intro view found counted broken
    rw [numbers_append_present counted isPresent]
    cases converted : Number.ofCell cell with
    | ok number =>
        rw [converted] at broken
        cases broken
    | error other =>
        rw [converted] at broken
        cases broken
        rfl
  rw [AggregateFunction.reduce_error_iff]
  cases function with
  | sum =>
      obtain ⟨found, counted, -⟩ := tracks
      simp only [Running.push, isPresent] at failed
      exact ⟨rfl, error, refused counted failed⟩
  | mean =>
      obtain ⟨found, counted, -⟩ := tracks
      simp only [Running.push, isPresent] at failed
      exact ⟨rfl, error, refused counted failed⟩
  | median =>
      obtain ⟨⟨found, counted⟩, -⟩ := tracks
      simp only [Running.push, isPresent] at failed
      exact ⟨rfl, error, refused counted failed⟩
  | range =>
      obtain ⟨found, counted, -⟩ := tracks
      simp only [Running.push, isPresent] at failed
      exact ⟨rfl, error, refused counted failed⟩
  | first => cases failed
  | last => cases failed
  | _ =>
      simp only [Running.push, isPresent] at failed
      cases failed

/-- An accumulator shows the aggregate of the cells that it has taken. -/
theorem Tracks.emit (tracks : Tracks function cells state) :
    state.emit function = function.soFar cells := by
  cases function with
  | mean =>
      obtain ⟨found, counted, total, length⟩ := tracks
      simp only [Running.emit, AggregateFunction.soFar, keptMean, counted, total, length]
      rfl
  | count =>
      simp only [Tracks] at tracks
      rw [Running.emit, tracks]
      rfl
  | sum =>
      obtain ⟨found, counted, total⟩ := tracks
      simp only [Running.emit, AggregateFunction.soFar, AggregateFunction.reduce, sum_eq, counted,
        total]
      rfl
  | range =>
      obtain ⟨found, counted, bounds⟩ := tracks
      simp only [Running.emit, AggregateFunction.soFar, AggregateFunction.reduce, range_eq,
        counted, bounds]
      rfl
  | min =>
      simp only [Tracks] at tracks
      simp only [Running.emit, AggregateFunction.soFar, AggregateFunction.reduce,
        Reducer.min, extreme_eq, tracks]
  | max =>
      simp only [Tracks] at tracks
      simp only [Running.emit, AggregateFunction.soFar, AggregateFunction.reduce,
        Reducer.max, extreme_eq, tracks]
  | median =>
      simp only [Running.emit, AggregateFunction.soFar, AggregateFunction.reduce, median, numbers,
        tracks.2, present_present]
  | mode =>
      simp only [Tracks] at tracks
      simp only [Running.emit, AggregateFunction.soFar, AggregateFunction.reduce, mode, tracks,
        present_present]
  | distinctCount =>
      simp only [Tracks] at tracks
      simp only [Running.emit, AggregateFunction.soFar, AggregateFunction.reduce, distinctCount,
        tracks]
  | values =>
      simp only [Tracks] at tracks
      simp only [Running.emit, AggregateFunction.soFar, AggregateFunction.reduce, values, tracks]
      cases Tally.ofCells (present cells) with
      | nil => rfl
      | cons entry entries => rfl
  | first =>
      simp only [Tracks] at tracks
      simp only [Running.emit, AggregateFunction.soFar, tracks]
  | last =>
      simp only [Tracks] at tracks
      simp only [Running.emit, AggregateFunction.soFar, tracks]

/-- An accumulator can always be shown. -/
theorem Tracks.exists_emit (tracks : Tracks function cells state) :
    ∃ shown, state.emit function = .ok shown := by
  rw [tracks.emit]
  have accepted : ∃ value, function.reduce cells = .ok value :=
    Except.exists_ok_of_not_error tracks.not_reduce_error
  cases function with
  | first => exact ⟨_, rfl⟩
  | last => exact ⟨_, rfl⟩
  | mean =>
      obtain ⟨found, counted, -⟩ := tracks
      exact ⟨_, Except.map_eq_ok_iff.mpr ⟨found, counted, rfl⟩⟩
  | _ => exact accepted

end Running

end LogPipe
