import LogPipe.Directive.Shape
import LogPipe.Proofs.Stats.Reordering
import LogPipe.Proofs.Table.Gathering

/-!
# The first rows of each kind

Whether `dedup` keeps a row depends on how many rows with the same keys stand before it: in the
whole table, or in the row's own run of neighbours with the same keys.  The loops count these
rows as they go along.  Before a row that is dropped there are as many rows as may be kept, so
leaving it out changes no count that is below the bound, and what has been kept is kept again.
-/

namespace LogPipe

section Counting

variable {κ : Type} [DecidableEq κ]

/-- The number of earlier positions with the same key. -/
def earlierLike (keyOf : Nat → κ) (position : Nat) : Nat :=
  (List.range position).countP fun earlier => keyOf earlier = keyOf position

/-- The number of earlier positions in the same run, from which on all keys are the same. -/
def earlierInRun (keyOf : Nat → κ) (position : Nat) : Nat :=
  (List.range position).countP fun earlier =>
    ∀ between < position, earlier ≤ between → keyOf between = keyOf position

variable (keyOf : Nat → κ)

/-- A run goes on as long as the keys stay the same, and a new one has nothing before it. -/
theorem earlierInRun_succ (position : Nat) :
    earlierInRun keyOf (position + 1) =
      if keyOf position = keyOf (position + 1) then earlierInRun keyOf position + 1 else 0 := by
  have continued (earlier : Nat) :
      (∀ between < position + 1, earlier ≤ between → keyOf between = keyOf (position + 1)) ↔
        (∀ between < position, earlier ≤ between → keyOf between = keyOf (position + 1)) ∧
          (earlier ≤ position → keyOf position = keyOf (position + 1)) :=
    Nat.forall_lt_succ_right
  rw [earlierInRun, List.range_succ, List.countP_append]
  by_cases same : keyOf position = keyOf (position + 1)
  · have before : (List.range position).countP (fun earlier => ∀ between < position + 1,
        earlier ≤ between → keyOf between = keyOf (position + 1)) =
          earlierInRun keyOf position := by
      refine List.countP_congr fun earlier _ => ?_
      rw [decide_eq_true_eq, decide_eq_true_eq, continued, same]
      exact and_iff_left fun _ => rfl
    have itself : ∀ between < position + 1, position ≤ between →
        keyOf between = keyOf (position + 1) := by
      intro between before behind
      obtain rfl : between = position := by omega
      exact same
    rw [if_pos same, before, List.countP_singleton, if_pos (decide_eq_true itself)]
  · have nowhere : ∀ earlier ∈ List.range position ++ [position],
        ¬∀ between < position + 1, earlier ≤ between →
          keyOf between = keyOf (position + 1) := by
      intro earlier member whole
      rw [← List.range_succ, List.mem_range] at member
      exact same (whole position (Nat.lt_succ_self position) (Nat.le_of_lt_succ member))
    rw [if_neg same, ← List.countP_append, List.countP_eq_zero]
    simpa only [decide_eq_true_eq] using nowhere

theorem earlierInRun_le (position : Nat) :
    earlierInRun keyOf position ≤ earlierLike keyOf position := by
  refine List.countP_mono_left fun earlier member same => ?_
  rw [decide_eq_true_eq] at same ⊢
  exact same earlier (List.mem_range.mp member) (Nat.le_refl earlier)

/-- The number of rows that `dedup` takes to stand before a row. -/
def alikeBefore (consecutive : Bool) (keyOf : Nat → κ) (position : Nat) : Nat :=
  if consecutive then earlierInRun keyOf position else earlierLike keyOf position

/-- Only which keys are the same matters. -/
theorem alikeBefore_congr {ι : Type} [DecidableEq ι] (consecutive : Bool) {keyOf : Nat → κ}
    {other : Nat → ι} {position : Nat}
    (same : ∀ earlier < position, keyOf earlier = keyOf position ↔
      other earlier = other position) :
    alikeBefore consecutive keyOf position = alikeBefore consecutive other position := by
  cases consecutive with
  | false =>
      refine List.countP_congr fun earlier member => ?_
      rw [decide_eq_true_eq, decide_eq_true_eq]
      exact same earlier (List.mem_range.mp member)
  | true =>
      refine List.countP_congr fun earlier member => ?_
      rw [decide_eq_true_eq, decide_eq_true_eq]
      exact forall₃_congr fun between before _ => same between before

section Loops

variable (count : Nat)

theorem keepFirst_eq_filter (position length : Nat) :
    keepFirst count ((List.range position).map keyOf).reverse position
        ((List.range' position length).map keyOf) =
      (List.range' position length).filter fun row => earlierLike keyOf row < count := by
  induction length generalizing position with
  | zero => rfl
  | succ length induction =>
      have seen : keyOf position :: ((List.range position).map keyOf).reverse =
          ((List.range (position + 1)).map keyOf).reverse := by
        rw [List.range_succ, List.map_append, List.reverse_append]
        rfl
      have counted : ((List.range position).map keyOf).reverse.count (keyOf position) =
          earlierLike keyOf position := by
        rw [List.count_reverse, List.count, List.countP_map]
        rfl
      rw [List.range'_succ, List.map_cons, keepFirst, seen, induction, counted, List.filter_cons]
      simp only [decide_eq_true_eq]

theorem keepFirstOfRuns_eq_filter {previous : Option κ} {run position : Nat} (length : Nat)
    (running : (if previous = some (keyOf position) then run else 0) =
      earlierInRun keyOf position) :
    keepFirstOfRuns count previous run position ((List.range' position length).map keyOf) =
      (List.range' position length).filter fun row => earlierInRun keyOf row < count := by
  induction length generalizing previous run position with
  | zero => rfl
  | succ length induction =>
      have next : (if some (keyOf position) = some (keyOf (position + 1)) then
          earlierInRun keyOf position + 1 else 0) = earlierInRun keyOf (position + 1) := by
        rw [earlierInRun_succ]
        simp only [Option.some.injEq]
      rw [List.range'_succ, List.map_cons, keepFirstOfRuns, running, induction next,
        List.filter_cons]
      simp only [decide_eq_true_eq]

/-! ### What is kept is kept again -/

/-- The rows that have been kept are kept once more when as many keys of each kind, up to the
count, are taken to stand before them. -/
theorem keepFirst_kept {earlier keptEarlier : List κ}
    (alike : ∀ key, min (earlier.count key) count = min (keptEarlier.count key) count)
    (position place length : Nat) :
    keepFirst count keptEarlier place
        ((keepFirst count earlier position ((List.range' position length).map keyOf)).map keyOf) =
      List.range' place
        (keepFirst count earlier position ((List.range' position length).map keyOf)).length := by
  induction length generalizing earlier keptEarlier position place with
  | zero => rfl
  | succ length induction =>
      have here := alike (keyOf position)
      rw [List.range'_succ, List.map_cons, keepFirst]
      split
      · next kept =>
          have next (key : κ) : min ((keyOf position :: earlier).count key) count =
              min ((keyOf position :: keptEarlier).count key) count := by
            have before := alike key
            rw [List.count_cons, List.count_cons]
            omega
          rw [List.map_cons, keepFirst, if_pos (by omega), induction next, List.length_cons,
            List.range'_succ]
      · next dropped =>
          have next (key : κ) : min ((keyOf position :: earlier).count key) count =
              min (keptEarlier.count key) count := by
            have before := alike key
            rw [List.count_cons]
            split
            · next same =>
                rw [beq_iff_eq] at same
                subst same
                omega
            · exact before
          exact induction next (position + 1) place

/-- Counterpart of `keepFirst_kept` for runs: where a row is dropped, its run has reached the
count already. -/
theorem keepFirstOfRuns_kept (positive : 0 < count) (previous : Option κ) {run keptRun : Nat}
    (alike : min run count = min keptRun count) (position place length : Nat) :
    keepFirstOfRuns count previous keptRun place
        ((keepFirstOfRuns count previous run position
          ((List.range' position length).map keyOf)).map keyOf) =
      List.range' place (keepFirstOfRuns count previous run position
        ((List.range' position length).map keyOf)).length := by
  induction length generalizing previous run keptRun position place with
  | zero => rfl
  | succ length induction =>
      rw [List.range'_succ, List.map_cons, keepFirstOfRuns]
      by_cases same : previous = some (keyOf position)
      · rw [if_pos same]
        split
        · next kept =>
            rw [List.map_cons, keepFirstOfRuns, if_pos same, if_pos (by omega),
              induction _ (by omega), List.length_cons, List.range'_succ]
        · next dropped =>
            rw [same]
            exact induction _ (by omega) (position + 1) place
      · rw [if_neg same, if_pos positive, List.map_cons, keepFirstOfRuns, if_neg same,
          if_pos positive, induction _ rfl, List.length_cons, List.range'_succ]

/-- The positions that `dedup` keeps of some keys. -/
def distinctRows (consecutive : Bool) (count : Nat) (keys : List κ) : List Nat :=
  if consecutive then keepFirstOfRuns count none 0 0 keys else keepFirst count [] 0 keys

theorem distinctRows_eq_filter (consecutive : Bool) (length : Nat) :
    distinctRows consecutive count ((List.range length).map keyOf) =
      (List.range length).filter fun row => alikeBefore consecutive keyOf row < count := by
  rw [List.range_eq_range']
  cases consecutive with
  | false => exact keepFirst_eq_filter keyOf count 0 length
  | true => exact keepFirstOfRuns_eq_filter keyOf count length rfl

theorem distinctRows_kept (positive : 0 < count) (consecutive : Bool) (length : Nat) :
    distinctRows consecutive count
        ((distinctRows consecutive count ((List.range length).map keyOf)).map keyOf) =
      List.range (distinctRows consecutive count ((List.range length).map keyOf)).length := by
  rw [List.range_eq_range', List.range_eq_range']
  cases consecutive with
  | false => exact keepFirst_kept keyOf count (fun _ => rfl) 0 0 length
  | true => exact keepFirstOfRuns_kept keyOf count positive none rfl 0 0 length

end Loops

end Counting

namespace Table

/-- The rows of a table with fewer than some rows before them that have the same keys, in the
table or in their own run. -/
def firstRows (table : Table) (consecutive : Bool) (count : Nat) (names : List String) :
    List Nat :=
  (List.range table.rows).filter fun row =>
    alikeBefore consecutive (table.keysAt names) row < count

/-- The first rows of all are among the first rows of the runs. -/
theorem firstRows_sublist (table : Table) (count : Nat) (names : List String) :
    (table.firstRows false count names).Sublist (table.firstRows true count names) := by
  refine List.monotone_filter_right _ fun row first => ?_
  rw [decide_eq_true_eq] at *
  exact Nat.lt_of_le_of_lt (earlierInRun_le _ row) first

variable {table : Table} {names : List String} {columns : List Column}

/-- A directive needs the columns that rows are grouped by. -/
theorem needAll_eq_ok_iff :
    table.needAll names = .ok columns ↔ Grouping.columnsOf table names = .ok columns := by
  induction names generalizing columns with
  | nil => rw [needAll, Grouping.columnsOf, Except.ok.injEq, Except.ok.injEq]
  | cons name names induction =>
      rw [needAll, need, Grouping.columnsOf, require]
      cases table.column? name with
      | none =>
          constructor
          · intro found
            cases found
          · intro found
            cases found
      | some column =>
          simp only [Except.map_eq_ok_iff, Except.bind_eq_ok_iff, induction]
          constructor
          · rintro ⟨later, found, rfl⟩
            exact ⟨column, rfl, later, found, rfl⟩
          · rintro ⟨_, ⟨⟩, later, found, ⟨⟩⟩
            exact ⟨later, found, rfl⟩

theorem exists_needAll (present : ∀ name ∈ names, name ∈ table.names) :
    ∃ columns, table.needAll names = .ok columns := by
  obtain ⟨columns, found⟩ := Grouping.exists_columnsOf fun name member =>
    column?_isSome_iff.mpr (present name member)
  exact ⟨columns, needAll_eq_ok_iff.mpr found⟩

/-- The first name without a column is missed. -/
theorem needAll_missing {before after : List String} {name : String}
    (present : ∀ other ∈ before, other ∈ table.names) (absent : name ∉ table.names) :
    table.needAll (before ++ name :: after) = .error (.missingColumn name) := by
  induction before with
  | nil =>
      have notFound : table.column? name = none := by
        rwa [← column?_isSome_iff, Option.not_isSome_iff_eq_none] at absent
      rw [List.nil_append, needAll, need, notFound]
  | cons other before induction =>
      rw [List.forall_mem_cons] at present
      obtain ⟨column, found⟩ := Option.isSome_iff_exists.mp (column?_isSome_iff.mpr present.1)
      rw [List.cons_append, needAll, need, found, induction present.2]
      rfl

theorem distinctRows_keysOfRows (wellFormed : table.WellFormed)
    (found : table.needAll names = .ok columns) (consecutive : Bool) (count : Nat) :
    distinctRows consecutive count (keysOfRows table.rows columns) =
      table.firstRows consecutive count names := by
  rw [keysOfRows, distinctRows_eq_filter, firstRows]
  refine List.filter_congr fun row member => ?_
  rw [List.mem_range] at member
  have keys {other : Nat} (inside : other < table.rows) :=
    Grouping.keysAt_eq wellFormed (needAll_eq_ok_iff.mp found) inside
  have same : alikeBefore consecutive (fun row => (Grouping.rowCells columns row).map Cell.key)
      row = alikeBefore consecutive (table.keysAt names) row := by
    refine alikeBefore_congr consecutive fun earlier before => ?_
    rw [keys member, keys (Nat.lt_trans before member)]
    exact (List.map_inj_right fun _ _ equal => Option.some.inj equal).symm
  rw [same]

theorem keysOfRows_takeRows (columns : List Column) (positions : List Nat) :
    keysOfRows positions.length (columns.map fun column => column.take positions) =
      positions.map fun row => (Grouping.rowCells columns row).map Cell.key := by
  conv => rhs; rw [← map_rowAt positions, List.map_map]
  refine List.map_congr_left fun place member => ?_
  rw [Grouping.rowCells_takeRows columns (List.mem_range.mp member)]
  rfl

end Table

namespace Shape

/-- What an invocation of `dedup` asks for: a count and some fields, and whether it is runs that
are counted in. -/
structure AsksDedup (invocation : Invocation) (consecutive : Bool) (count : Nat)
    (names : List String) : Prop where
  flag : invocation.flag "consecutive" false = .ok consecutive
  positional : ∃ rest, (Arguments.leadingCount? invocation.options.positional).getD
    (1, invocation.options.positional) = (count, rest) ∧ Arguments.fieldNames rest = names
  counted : 0 < count
  named : names ≠ []

theorem dedup_eq {invocation : Invocation} {consecutive : Bool} {count : Nat}
    {names : List String} (asks : AsksDedup invocation consecutive count names) (table : Table) :
    dedup table invocation = (table.needAll names).map fun columns =>
      table.takeRows (distinctRows consecutive count (Table.keysOfRows table.rows columns)) := by
  obtain ⟨flag, ⟨rest, read, fields⟩, counted, named⟩ := asks
  have some : (count == 0) = false := beq_eq_false_iff_ne.mpr (Nat.ne_of_gt counted)
  rw [dedup, flag]
  simp only [read, fields, some]
  cases names with
  | nil => exact absurd rfl named
  | cons name names =>
      cases table.needAll (name :: names) with
      | error error => rfl
      | ok columns => cases consecutive <;> rfl

section

variable {table : Table} (wellFormed : table.WellFormed) {invocation : Invocation}
  {consecutive : Bool} {count : Nat} {names : List String}
  (asks : AsksDedup invocation consecutive count names)

include wellFormed asks

theorem dedup_firstRows_of_present (present : ∀ name ∈ names, name ∈ table.names) :
    dedup table invocation = .ok (table.takeRows (table.firstRows consecutive count names)) := by
  obtain ⟨columns, found⟩ := Table.exists_needAll present
  rw [dedup_eq asks, found, ← Table.distinctRows_keysOfRows wellFormed found consecutive count]
  rfl

/-- The rows that are kept are all kept when `dedup` is carried out again. -/
theorem dedup_again (present : ∀ name ∈ names, name ∈ table.names) :
    dedup (table.takeRows (table.firstRows consecutive count names)) invocation =
      .ok (table.takeRows (table.firstRows consecutive count names)) := by
  obtain ⟨columns, found⟩ := Table.exists_needAll present
  rw [← Table.distinctRows_keysOfRows wellFormed found consecutive count]
  generalize isKept :
    distinctRows consecutive count (Table.keysOfRows table.rows columns) = positions
  have keptFound : (table.takeRows positions).needAll names =
      .ok (columns.map fun column => column.take positions) := by
    rw [Table.needAll_eq_ok_iff, Grouping.columnsOf_takeRows, Table.needAll_eq_ok_iff.mp found]
    rfl
  have again := distinctRows_kept (fun row => (Grouping.rowCells columns row).map Cell.key) count
    asks.counted consecutive table.rows
  rw [← Table.keysOfRows, isKept, ← Table.keysOfRows_takeRows] at again
  rw [dedup_eq asks, keptFound]
  exact congrArg Except.ok ((congrArg (table.takeRows positions).takeRows again).trans
    (Table.takeRows_range (Table.sizes_takeRows table positions)))

end

/-- `dedup` keeps the first rows of each kind, whole and in their order, and does nothing more
when it is carried out again.  What is kept of the whole table is kept of its runs as well. -/
theorem dedup_firstRows {table : Table} (wellFormed : table.WellFormed) (count : Nat)
    (names : List String) :
    ((∀ name ∈ names, name ∈ table.names) →
      (∀ invocation consecutive, AsksDedup invocation consecutive count names →
        dedup table invocation =
            .ok (table.takeRows (table.firstRows consecutive count names)) ∧
          dedup (table.takeRows (table.firstRows consecutive count names)) invocation =
            .ok (table.takeRows (table.firstRows consecutive count names))) ∧
      (table.firstRows false count names).Sublist (table.firstRows true count names)) ∧
    ∀ before name after, names = before ++ name :: after →
      (∀ other ∈ before, other ∈ table.names) → name ∉ table.names →
      ∀ invocation consecutive, AsksDedup invocation consecutive count names →
        dedup table invocation = .error (.missingColumn name) := by
  refine ⟨fun present => ⟨fun invocation consecutive asks => ⟨?_, ?_⟩, ?_⟩, ?_⟩
  · exact dedup_firstRows_of_present wellFormed asks present
  · exact dedup_again wellFormed asks present
  · exact table.firstRows_sublist count names
  · rintro before name after rfl present absent invocation consecutive asks
    rw [dedup_eq asks, Table.needAll_missing present absent]
    rfl

/-- Hosts that come and go; two rows lack theirs. -/
def arrivals : Table :=
  ⟨6, [("host", ⟨.text, [.text "a", .text "a", .null, .null, .text "a", .text "b"]⟩)]⟩

/-- The query segment `dedup host`. -/
def distinctHosts : Invocation :=
  ⟨.dedup, ⟨.identifier, "dedup", 0⟩, [⟨.identifier, "host", 6⟩], "host"⟩

/-- The query segment `dedup host consecutive=true`. -/
def distinctNeighbours : Invocation :=
  ⟨.dedup, ⟨.identifier, "dedup", 0⟩,
    [⟨.identifier, "host", 6⟩, ⟨.identifier, "consecutive", 11⟩, ⟨.operator, "=", 22⟩,
      ⟨.identifier, "true", 23⟩], "host consecutive=true"⟩

/-- A host that comes back starts a new run, and rows without a host are of one kind. -/
theorem dedup_firstRows_arrivals :
    dedup arrivals distinctHosts = .ok (arrivals.takeRows [0, 2, 5]) ∧
      dedup arrivals distinctNeighbours = .ok (arrivals.takeRows [0, 2, 4, 5]) := by
  have wellFormed : arrivals.WellFormed := by decide
  have present : ∀ name ∈ ["host"], name ∈ arrivals.names := by decide
  have plain : AsksDedup distinctHosts false 1 ["host"] :=
    ⟨Except.toOption_eq_some_iff.mp (by decide +kernel), ⟨_, rfl, rfl⟩, by decide, by decide⟩
  have inRuns : AsksDedup distinctNeighbours true 1 ["host"] :=
    ⟨Except.toOption_eq_some_iff.mp (by decide +kernel), ⟨_, rfl, rfl⟩, by decide, by decide⟩
  have firsts : arrivals.firstRows false 1 ["host"] = [0, 2, 5] := by decide +kernel
  have firstsOfRuns : arrivals.firstRows true 1 ["host"] = [0, 2, 4, 5] := by decide +kernel
  obtain ⟨kept, -⟩ := (dedup_firstRows wellFormed 1 ["host"]).1 present
  rw [← firsts, ← firstsOfRuns]
  exact ⟨(kept _ _ plain).1, (kept _ _ inRuns).1⟩

end Shape

end LogPipe
