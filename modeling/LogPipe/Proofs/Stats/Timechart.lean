import LogPipe.Proofs.Column.Reordering
import LogPipe.Proofs.Stats.Groups
import LogPipe.Proofs.Stats.Preservation
import LogPipe.Proofs.Stats.Span
import Mathlib.Data.Set.List

/-!
# Counts over time

A row has a key over time when its cell stands for a time, and then the key is the start of its
bucket.  So the rows of a count over time are the starts of the buckets that hold a time, each
once and in ascending order, and every time is counted in one of them.
-/

namespace LogPipe

open LogPipe.Decimal LogPipe.Query LogPipe.Text

namespace Stats

open Grouping

/-! ## The clause -/

/-- The clause that counts rows by their times. -/
def countOverTime : StatsClause :=
  ⟨[⟨.count, "count", none, none⟩], [timeField]⟩

/-- A text that asks for counts only; the span of the buckets may stand in the text. -/
def AsksCounts (text : String) (default span : Span) : Prop :=
  ∃ tokens token, lex text = .ok tokens ∧ takeSpan default tokens = .ok (span, [token]) ∧
    token.kind = .identifier ∧ asciiLower token.value = "count"

theorem asksCounts_count (span : Span) : AsksCounts "count" span span := by
  have read : lex "count" = .ok [⟨.identifier, "count", 0⟩] :=
    Except.toOption_eq_some_iff.mp (by decide +kernel)
  exact ⟨_, _, read, rfl, rfl, by decide +kernel⟩

/-- A span in the text counts for more than the one that is given. -/
example : AsksCounts "count span=1s" ⟨60000⟩ ⟨1000⟩ := by
  have read : lex "count span=1s" = .ok [⟨.identifier, "count", 0⟩, ⟨.identifier, "span", 6⟩,
      ⟨.operator, "=", 10⟩, ⟨.identifier, "1s", 11⟩] :=
    Except.toOption_eq_some_iff.mp (by decide +kernel)
  exact ⟨_, ⟨.identifier, "count", 0⟩, read, Except.toOption_eq_some_iff.mp (by decide +kernel),
    rfl, by decide +kernel⟩

theorem ofTokens_count {token : Token} (kind : token.kind = .identifier)
    (word : asciiLower token.value = "count") (text : String) :
    StatsClause.ofTokens [token] text = .ok ⟨[⟨.count, "count", none, none⟩], []⟩ := by
  have other : token.isKeyword "by" = false := by
    rw [Token.isKeyword, sameIgnoringCase, word, kind]
    decide +kernel
  have noMark : token.isPunctuation "," = false := by
    rw [Token.isPunctuation, kind]
    rfl
  have function : AggregateFunction.ofLowerName? "count" = some .count := rfl
  have listed : StatsClause.readAggregates text [token] 1 =
      .ok [⟨.count, "count", none, none⟩] := by
    rw [StatsClause.readAggregates]
    simp only [noMark, kind, word, function, StatsClause.readField, StatsClause.readAlias]
    rfl
  simp only [StatsClause.ofTokens, other, listed, List.takeWhile_cons, List.dropWhile_cons,
    Bool.not_false, if_true, List.takeWhile_nil, List.dropWhile_nil, List.length_singleton]
  rfl

/-- Counts over time summarize the table with the buckets of its times. -/
theorem timechart_of_asksCounts {text : String} {default span : Span}
    (asks : AsksCounts text default span) {table : Table} {column : Column}
    (shown : table.column? timeField = some column) :
    timechart table text default = (do
      let buckets ← binTimes timeField column span
      let binned ← (table.withColumn timeField buckets).mapError .table
      summarize binned countOverTime) := by
  obtain ⟨tokens, token, read, taken, kind, word⟩ := asks
  rw [timechart, read]
  dsimp only [Except.mapError, bind, Except.bind]
  rw [taken]
  dsimp only
  rw [ofTokens_count kind word]
  dsimp only
  rw [shown]
  rfl

/-! ## The rows of a bucket -/

section Rows

variable {column : Column} {span : Span}

/-- The starts of the buckets of the times of a column. -/
def starts (column : Column) (span : Span) : List Int64 :=
  column.times.map span.start

/-- The key of a row of buckets is the start of the bucket of its time. -/
theorem rowKey_buckets {row : Nat} (inside : row < column.cells.length) :
    rowKey [Column.lossy (column.cells.map span.bucket)] row =
      (column.cells[row].timeValue?.map span.start).map fun start => [Key.time start] := by
  have member : column.cells[row] ∈ column.cells := List.getElem_mem inside
  have shown : (Column.lossy (column.cells.map span.bucket)).cellAt row =
      Column.coerce (Column.lossyKind (column.cells.map span.bucket))
        (span.bucket column.cells[row]) := by
    rw [Column.cellAt, Column.get?_lossy, List.getElem?_map, List.getElem?_eq_getElem inside]
    rfl
  rw [rowKey, rowCells, List.map_singleton, shown]
  generalize column.cells[row] = cell at member ⊢
  rcases coerce_bucket span member with ⟨noTime, missing⟩ | ⟨time, stands, isTime⟩
  · rw [noTime]
    simp only [List.any_cons, missing, Bool.true_or, if_true, Option.map_none]
  · rw [stands, isTime]
    rfl

theorem length_keyRows (table : Table) (rows : table.rows = column.cells.length)
    (start : Int64) :
    (keyRows table [Column.lossy (column.cells.map span.bucket)] [Key.time start]).length =
      (starts column span).count start := by
  have keyed : ∀ row ∈ List.range table.rows,
      (rowKey [Column.lossy (column.cells.map span.bucket)] row == some [Key.time start]) =
        ((column.cells[row]?.getD .null).timeValue?.map span.start == some start) := by
    intro row member
    have inside : row < column.cells.length := rows ▸ List.mem_range.mp member
    rw [rowKey_buckets inside, List.getElem?_eq_getElem inside, Option.getD_some, Bool.eq_iff_iff,
      beq_iff_eq, beq_iff_eq]
    generalize column.cells[row].timeValue?.map span.start = found
    cases found <;> simp
  have listed := congrArg (List.countP fun cell => cell.timeValue?.map span.start == some start)
    (map_range_getElem? column.cells .null)
  rw [List.countP_map] at listed
  calc
    (keyRows table [Column.lossy (column.cells.map span.bucket)] [Key.time start]).length =
        (List.range table.rows).countP fun row =>
          (column.cells[row]?.getD .null).timeValue?.map span.start == some start := by
      rw [keyRows, rowsOf, ← List.countP_eq_length_filter]
      exact List.countP_congr fun row member => by rw [keyed row member]
    _ = column.cells.countP fun cell => cell.timeValue?.map span.start == some start := by
      rw [rows]
      exact listed
    _ = (starts column span).count start := by
      rw [starts, Column.times, List.map_filterMap, List.count_filterMap]

/-- A key over time is the start of a bucket that holds a time. -/
theorem exists_rowKey_iff {key : List Key} :
    (∃ row < column.cells.length,
      rowKey [Column.lossy (column.cells.map span.bucket)] row = some key) ↔
        ∃ start ∈ starts column span, key = [Key.time start] := by
  constructor
  · rintro ⟨row, inside, keyed⟩
    rw [rowKey_buckets inside] at keyed
    obtain ⟨start, isStart, rfl⟩ := Option.map_eq_some_iff.mp keyed
    obtain ⟨time, stands, rfl⟩ := Option.map_eq_some_iff.mp isStart
    refine ⟨_, List.mem_map_of_mem ?_, rfl⟩
    exact List.mem_filterMap.mpr ⟨_, List.getElem_mem inside, stands⟩
  · rintro ⟨start, member, rfl⟩
    obtain ⟨time, isTime, rfl⟩ := List.mem_map.mp member
    obtain ⟨cell, inCells, stands⟩ := List.mem_filterMap.mp isTime
    obtain ⟨row, inside, rfl⟩ := List.getElem_of_mem inCells
    exact ⟨row, inside, by rw [rowKey_buckets inside, stands]; rfl⟩

theorem eq_time_of_key {cell : Cell} {start : Int64} (keyed : cell.key = .time start) :
    cell = .time start := by
  cases cell with
  | time millis => exact congrArg Cell.time (Key.time.inj keyed)
  | float x =>
      rw [Cell.key, Cell.floatKey] at keyed
      split at keyed
      · cases keyed
      · split at keyed
        · split at keyed <;> cases keyed
        · cases keyed
  | _ => cases keyed

theorem compareKeys_times {first second : Int64} :
    compareKeys [.time first] [.time second] = .lt ↔ first < second := by
  rw [compareKeys_cons_eq_lt_iff, Int64.lt_iff_toInt_lt, ← Int.compare_eq_lt]
  constructor
  · rintro (less | ⟨-, ⟨⟩⟩)
    exact less
  · exact Or.inl

end Rows

/-! ## The rows of a chart -/

section Charts

variable {table summary : Table} {column : Column} {span : Span}

/-- The table with the buckets of its times. -/
def withBuckets (table : Table) (column : Column) (span : Span) : Table :=
  ⟨table.rows, Table.insertColumn table.columns timeField
    (Column.lossy (column.cells.map span.bucket))⟩

theorem column?_withBuckets (table : Table) (column : Column) (span : Span) :
    (withBuckets table column span).column? timeField =
      some (Column.lossy (column.cells.map span.bucket)) := by
  rw [Table.column?, withBuckets, Table.lookup_insertColumn, if_pos rfl]

theorem bind_countOverTime (table : Table) (column : Column) (span : Span) :
    countOverTime.bind (withBuckets table column span) = .ok [⟨.count, none, "count"⟩] := by
  have has : (withBuckets table column span).hasColumn timeField = true := by
    rw [Table.hasColumn, column?_withBuckets]
    rfl
  have complete : StatsClause.firstMissing (withBuckets table column span) [timeField] = none := by
    rw [StatsClause.firstMissing, List.find?_singleton, has]
    rfl
  rw [StatsClause.bind]
  simp only [countOverTime, complete]
  rfl

theorem lossyKind_buckets_ne_list (span : Span) (cells : List Cell) :
    Column.lossyKind (cells.map span.bucket) ≠ .list := by
  intro isList
  obtain ⟨bucket, member, kind⟩ := List.mem_map.mp (Kind.joinAll_eq_list_iff.mp isList)
  obtain ⟨cell, -, rfl⟩ := List.mem_map.mp member
  rcases Span.kind_bucket span cell with isNull | isTime
  · rw [isNull] at kind
    cases kind
  · rw [isTime] at kind
    cases kind

theorem columnsOf_withBuckets (table : Table) (column : Column) (span : Span) :
    columnsOf (withBuckets table column span) [timeField] =
      .ok [Column.lossy (column.cells.map span.bucket)] := by
  rw [columnsOf, Table.require, column?_withBuckets]
  rfl

theorem exists_summary (table : Table) (column : Column) (span : Span) :
    ∃ summary, summarize (withBuckets table column span) countOverTime = .ok summary := by
  have grouped : Grouping.ofTable (withBuckets table column span) [timeField] =
      .ok (ofColumns table.rows [Column.lossy (column.cells.map span.bucket)]) := by
    rw [ofTable, columnsOf_withBuckets]
    rfl
  obtain ⟨columns, distinct, order, groups⟩ := exists_grouped grouped
  refine (exists_summary_iff (bind_countOverTime table column span) groups).mpr ⟨?_, ?_⟩
  · intro bound member key _
    cases List.mem_singleton.mp member
    exact ⟨_, rfl⟩
  · simp [countOverTime, timeField]

section Summary

variable {bounds : List BoundAggregate} {grouping : Grouping} {columns : List Column}
  {distinct order : List (List Key)}
  (parts : Summarized (withBuckets table column span) summary countOverTime bounds grouping
    columns distinct order)

include parts

/-- The key cell of a bucket is its start. -/
theorem keyCells_withBuckets {start : Int64} (inOrder : [Key.time start] ∈ order) :
    keyCells (withBuckets table column span) columns [Key.time start] = [.time start] := by
  have someRow := parts.someRow_of_mem (Or.inr (List.cons_ne_nil _ _)) inOrder
  obtain ⟨keyed, -⟩ := keyCells_present (parts.occupied someRow inOrder)
  obtain ⟨cell, rest, cells, isKey, nothing⟩ := List.map_eq_cons_iff.mp keyed
  rw [cells, eq_time_of_key isKey, List.map_eq_nil_iff.mp nothing]

variable (rows : table.rows = column.cells.length)

include rows

/-- The keys over time are the starts of the buckets that hold a time. -/
theorem mem_order_iff {key : List Key} :
    key ∈ order ↔ ∃ start ∈ starts column span, key = [Key.time start] := by
  obtain rfl := Except.ok.inj (parts.found.symm.trans (columnsOf_withBuckets table column span))
  rw [← exists_rowKey_iff, ← rows]
  constructor
  · intro inOrder
    exact parts.occupied (parts.someRow_of_mem (Or.inr (List.cons_ne_nil _ _)) inOrder) inOrder
  · rintro ⟨row, inside, keyed⟩
    exact parts.reordered.mem_iff.mpr (parts.partitions.covers row inside key keyed)

theorem exists_order :
    ∃ buckets : List Int64, order = buckets.map (fun start => [Key.time start]) ∧
      buckets.Nodup ∧ ∀ start, start ∈ buckets ↔ start ∈ starts column span := by
  have listed : order ∈ Set.range (List.map fun start => [Key.time start]) := by
    rw [Set.range_list_map]
    intro key inOrder
    obtain ⟨start, -, rfl⟩ := (mem_order_iff parts rows).mp inOrder
    exact ⟨start, rfl⟩
  obtain ⟨buckets, rfl⟩ := listed
  have distinctOrder := parts.reordered.nodup_iff.mpr parts.partitions.nodup
  refine ⟨buckets, rfl, distinctOrder.of_map _, fun start => ?_⟩
  have members : [Key.time start] ∈ buckets.map (fun start => [Key.time start]) ↔
      ∃ other ∈ starts column span, [Key.time start] = [Key.time other] :=
    mem_order_iff parts rows
  simpa using members

/-- The rows of a count over time. -/
theorem exists_buckets (wellFormed : (withBuckets table column span).WellFormed) :
    ∃ buckets : List Int64, summary.rows = buckets.length ∧
      summary.column? timeField = some (Column.lossy (buckets.map Cell.time)) ∧
      summary.column? "count" = some (Column.lossy (buckets.map fun start =>
        Reducer.countCell ((starts column span).count start))) ∧
      buckets.Pairwise (· < ·) ∧ ∀ start, start ∈ buckets ↔ start ∈ starts column span := by
  obtain ⟨buckets, rfl, distinctBuckets, members⟩ := exists_order parts rows
  obtain rfl := Except.ok.inj (parts.found.symm.trans (columnsOf_withBuckets table column span))
  obtain rfl := Except.ok.inj (parts.bind.symm.trans (bind_countOverTime table column span))
  have keyCell : ∀ start ∈ buckets, keyCells (withBuckets table column span)
      [Column.lossy (column.cells.map span.bucket)] [Key.time start] = [.time start] :=
    fun start member => keyCells_withBuckets parts (List.mem_map_of_mem member)
  refine ⟨buckets, ?_, ?_, ?_, ?_, members⟩
  · rw [parts.rows, List.length_map]
  · rw [parts.keys 0 timeField rfl, List.map_map]
    refine congrArg (fun cells => some (Column.lossy cells)) (List.map_congr_left ?_)
    intro start member
    rw [Function.comp_apply, keyCell start member]
    rfl
  · rw [parts.outputs _ List.mem_cons_self, List.map_map]
    refine congrArg (fun cells => some (Column.lossy cells)) (List.map_congr_left ?_)
    intro start _
    rw [← length_keyRows (withBuckets table column span) rows]
    rfl
  · cases buckets with
    | nil => exact List.Pairwise.nil
    | cons first later =>
        have someRow :=
          parts.someRow_of_mem (Or.inr (List.cons_ne_nil _ _)) List.mem_cons_self
        have ascending := parts.pairwise_order wellFormed someRow ?_
        · rw [List.pairwise_map] at ascending
          refine ascending.imp_of_mem fun isLeft isRight less => ?_
          rwa [keyCell _ isLeft, keyCell _ isRight, compareKeys_times] at less
        · intro name member column shown
          cases List.mem_singleton.mp member
          rw [column?_withBuckets] at shown
          cases shown
          rw [Column.lossy_eq]
          exact lossyKind_buckets_ne_list span _

end Summary

end Charts

/-! ## Partition of the times -/

section Partition

variable {column : Column} {span : Span}

/-- Every cell of a column is missing or stands for a time whose bucket starts in range. -/
def Places (span : Span) (column : Column) : Prop :=
  ∀ cell ∈ column.cells, cell.isMissing = true ∨
    ∃ time, cell.timeValue? = some time ∧ InRange (span.floor time.toInt)

variable (places : Places span column)

include places

theorem Places.inRange {time : Int64} (member : time ∈ column.times) :
    InRange (span.floor time.toInt) := by
  obtain ⟨cell, inCells, stands⟩ := List.mem_filterMap.mp member
  rcases places cell inCells with missing | ⟨other, same, inRange⟩
  · rw [Cell.timeValue?_of_isMissing missing] at stands
    cases stands
  · rw [stands] at same
    cases same
    exact inRange

/-- There is one time for each present cell. -/
theorem Places.length_times :
    column.times.length = (Reducer.present column.cells).length := by
  rw [Column.times, List.length_filterMap_eq_countP, Reducer.present,
    ← List.countP_eq_length_filter]
  apply List.countP_congr
  intro cell member
  rcases places cell member with missing | ⟨time, stands, -⟩
  · simp [Cell.timeValue?_of_isMissing missing, missing]
  · have present : cell.isMissing = false := by
      cases missing : cell.isMissing with
      | false => rfl
      | true =>
          rw [Cell.timeValue?_of_isMissing missing] at stands
          cases stands
    simp [stands, present]

theorem Places.dvd {start : Int64} (member : start ∈ starts column span) :
    span.millis ∣ start.toInt := by
  obtain ⟨time, isTime, rfl⟩ := List.mem_map.mp member
  rw [Span.start, toInt_ofInt_of_inRange (places.inRange isTime)]
  exact Span.dvd_floor _

/-- A bucket counts the times from its start up to the next multiple of the span. -/
theorem Places.count_starts (positive : 0 < span.millis) {start : Int64}
    (member : start ∈ starts column span) :
    (starts column span).count start = column.times.countP fun time =>
      start.toInt ≤ time.toInt ∧ time.toInt < start.toInt + span.millis := by
  rw [starts, List.count_eq_countP, List.countP_map]
  apply List.countP_congr
  intro time isTime
  rw [Function.comp_apply, beq_iff_eq, decide_eq_true_eq,
    ← Span.floor_eq_iff positive (places.dvd member), ← Int64.toInt_inj, Span.start,
    toInt_ofInt_of_inRange (places.inRange isTime)]

end Partition

/-- The number of times in the bucket that starts at a time. -/
def countIn (span : Span) (column : Column) (start : Int64) : Nat :=
  column.times.countP fun time =>
    start.toInt ≤ time.toInt ∧ time.toInt < start.toInt + span.millis

/-- A chart with one row for each bucket that holds a time of a column. -/
structure IsCountChart (span : Span) (column : Column) (chart : Table) (buckets : List Int64) :
    Prop where
  rows : chart.rows = buckets.length
  starts : ∃ shown, chart.column? timeField = some shown ∧ shown.cells = buckets.map Cell.time
  counts : ∃ shown, chart.column? "count" = some shown ∧
    shown.cells = buckets.map fun start => Reducer.countCell (countIn span column start)
  ascending : buckets.Pairwise (· < ·)
  occupied : ∀ start, start ∈ buckets ↔ ∃ time ∈ column.times, span.start time = start
  multiples : ∀ start ∈ buckets, span.millis ∣ start.toInt
  total : (buckets.map (countIn span column)).sum = (Reducer.present column.cells).length

/-- Counts over time are a chart of the buckets of the times. -/
theorem exists_countChart {span default : Span} {table : Table} {column : Column} {text : String}
    (positive : 0 < span.millis) (wellFormed : table.WellFormed)
    (shown : table.column? timeField = some column) (places : Places span column)
    (asks : AsksCounts text default span) :
    ∃ chart buckets, timechart table text default = .ok chart ∧
      IsCountChart span column chart buckets := by
  have rows : table.rows = column.cells.length := (wellFormed.size_eq shown).symm
  have timely : ∀ cell ∈ column.cells, IsTimely cell := fun cell member =>
    (places cell member).imp_right fun ⟨time, stands, _⟩ => ⟨time, stands⟩
  have suits : (Column.lossy (column.cells.map span.bucket)).Suits table.rows :=
    Column.suits_lossy ((List.length_map _).trans rows.symm)
  have widened : table.withColumn timeField (Column.lossy (column.cells.map span.bucket)) =
      .ok (withBuckets table column span) := Table.withColumn_of_size suits.size_eq
  have bucketed : (withBuckets table column span).WellFormed :=
    ((Table.withColumn_keeps wellFormed timeField suits).of_eq_ok widened).1
  obtain ⟨chart, charted⟩ := exists_summary table column span
  obtain ⟨bounds, grouping, columns, distinct, order, parts⟩ := exists_summarized charted
  obtain ⟨buckets, length, isStarts, isCounts, ascending, members⟩ :=
    exists_buckets parts rows bucketed
  have distinctBuckets : buckets.Nodup := ascending.imp fun less => Int64.ne_of_lt less
  have counted : ∀ start ∈ buckets,
      (starts column span).count start = countIn span column start := fun start member =>
    places.count_starts positive ((members start).mp member)
  refine ⟨chart, buckets, ?_, length, ⟨_, isStarts, ?_⟩, ⟨_, isCounts, ?_⟩, ascending, ?_, ?_, ?_⟩
  · rw [timechart_of_asksCounts asks shown, binTimes_of_isTimely timely]
    simp only [bind, Except.bind, widened, Except.mapError, charted]
  · exact @Column.cells_lossy_of_kind _ .time (List.forall_mem_map.mpr fun _ _ => rfl)
  · rw [@Column.cells_lossy_of_kind _ .int (List.forall_mem_map.mpr fun _ _ => rfl)]
    exact List.map_congr_left fun start member => by rw [counted start member]
  · exact fun start => (members start).trans List.mem_map
  · exact fun start member => places.dvd ((members start).mp member)
  · calc
      (buckets.map (countIn span column)).sum =
          (buckets.map fun start => (starts column span).count start).sum :=
        congrArg List.sum (List.map_congr_left fun start member => (counted start member).symm)
      _ = (starts column span).length := sum_count_of_mem_iff distinctBuckets members
      _ = column.times.length := List.length_map _
      _ = (Reducer.present column.cells).length := places.length_times

/-- Buckets of time partition the events and nest.  A count over time has one row for each bucket
that holds a time, in ascending order; a bucket starts at a multiple of the span and counts the
times up to the next one, and together the buckets count every row with a time once.  Putting
times into buckets first changes nothing for the buckets of a multiple of the span. -/
theorem buckets_partition_and_nest (span : Span) (positive : 0 < span.millis) :
    (∀ (table : Table) (column : Column) (text : String) (default : Span), table.WellFormed →
      table.column? timeField = some column → Places span column →
      AsksCounts text default span →
        ∃ chart buckets, timechart table text default = .ok chart ∧
          IsCountChart span column chart buckets) ∧
    ∀ (name : String) (column : Column) (larger : Span) (factor : Int), 1 ≤ factor →
      larger.millis = factor * span.millis →
      (∀ time ∈ column.times, InRange (larger.floor time.toInt)) →
        (do
          let buckets ← binTimes name column span
          binTimes name buckets larger) = binTimes name column larger :=
  ⟨fun _ _ _ _ wellFormed shown places asks =>
      exists_countChart positive wellFormed shown places asks,
    fun name column _ _ some multiple inRange =>
      binTimes_binTimes positive some multiple name column inRange⟩

/-- Visits around the epoch, one of them at no known time. -/
def visitTimes : Column :=
  ⟨.time, [.time 1500, .time (-1), .missing .nat, .time 500]⟩

/-- The last visit before the epoch is in a bucket of its own, and three seconds hold as many as
the buckets of one second in them. -/
theorem buckets_partition_and_nest_visits :
    (∃ chart buckets, timechart ⟨4, [(timeField, visitTimes)]⟩ "count" ⟨1000⟩ = .ok chart ∧
      IsCountChart ⟨1000⟩ visitTimes chart buckets ∧ -1000 ∈ buckets) ∧
    (do
      let buckets ← binTimes timeField visitTimes ⟨1000⟩
      binTimes timeField buckets ⟨3000⟩) =
        .ok ⟨.time, [.time 0, .time (-3000), .missing .nat, .time 0]⟩ := by
  obtain ⟨counts, nest⟩ := buckets_partition_and_nest ⟨1000⟩ (by decide)
  have wellFormed : (⟨4, [(timeField, visitTimes)]⟩ : Table).WellFormed := by decide
  have places : Places ⟨1000⟩ visitTimes := by
    simp only [Places, visitTimes, List.forall_mem_cons]
    exact ⟨.inr ⟨1500, rfl, by decide⟩, .inr ⟨-1, rfl, by decide⟩, .inl rfl,
      .inr ⟨500, rfl, by decide⟩, List.forall_mem_nil _⟩
  obtain ⟨chart, buckets, charted, isChart⟩ :=
    counts ⟨4, [(timeField, visitTimes)]⟩ visitTimes "count" _ wellFormed rfl places
      (asksCounts_count _)
  have times : visitTimes.times = [1500, -1, 500] := rfl
  have first : -1 ∈ visitTimes.times := by decide
  have inRange : ∀ time ∈ visitTimes.times, InRange ((⟨3000⟩ : Span).floor time.toInt) := by
    simp only [times, List.forall_mem_cons]
    exact ⟨by decide, by decide, by decide, List.forall_mem_nil _⟩
  refine ⟨⟨chart, buckets, charted, isChart, (isChart.occupied (-1000)).mpr ⟨-1, first, rfl⟩⟩, ?_⟩
  rw [nest timeField visitTimes ⟨3000⟩ 3 (by decide) rfl inRange]
  exact Except.toOption_eq_some_iff.mp (by decide +kernel)

end Stats

end LogPipe
