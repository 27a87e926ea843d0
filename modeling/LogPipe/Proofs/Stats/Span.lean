import LogPipe.Directive.Aggregation
import LogPipe.Proofs.Calendar.Reading
import LogPipe.Proofs.Column.Lossy
import LogPipe.Proofs.Except
import LogPipe.Proofs.Table.Columns
import Mathlib.Data.List.Forall2

/-!
# Spans and the buckets of times

A span has a unit, so its text is no number, and a column of numbers is put into buckets of time
when the width is a span.  Buckets start at the multiples of the span, so those of a multiple
span are unions of them.  A cell is put into the bucket of the time that it stands for: a number
of seconds, the time and its text stand for the same one.
-/

namespace LogPipe

open LogPipe.Calendar LogPipe.Decimal LogPipe.Text

namespace Span

variable {span larger : Span}

/-! ## Texts of spans -/

/-- A unit starts with a letter of its own. -/
theorem exists_unit_head {unit : String} {entry : List String × Int}
    (found : units.find? (fun entry => entry.1.contains unit) = some entry) :
    ∃ first later, unit.toList = first :: later ∧ first ∈ ['s', 'm', 'h', 'd', 'w', 'y'] := by
  have heads : ∀ entry ∈ units, ∀ name ∈ entry.1,
      (name.toList.head?.any fun c => ['s', 'm', 'h', 'd', 'w', 'y'].contains c) = true := by
    decide
  have named := List.find?_some found
  have letter := heads entry (List.mem_of_find?_eq_some found) unit
    (List.contains_iff_mem.mp named)
  cases spelled : unit.toList with
  | nil => simp [spelled] at letter
  | cons first later =>
      rw [spelled, List.head?_cons, Option.any_some, List.contains_iff_mem] at letter
      exact ⟨first, later, rfl, letter⟩

/-- The text of a span has a unit behind its digits, and a span is positive. -/
theorem exists_unit {width : String} (isSpan : ofText? width = some span) :
    (∃ entry, units.find? (fun entry => entry.1.contains (String.ofList (trim
      (((trim width.toList).map Char.toLower).dropWhile isDigit)))) = some entry) ∧
      0 < span.millis := by
  rw [ofText?] at isSpan
  generalize (trim width.toList).map Char.toLower = lower at isSpan ⊢
  dsimp only at isSpan
  generalize String.ofList (trim (lower.dropWhile isDigit)) = unit at isSpan ⊢
  split at isSpan
  all_goals
    obtain ⟨count, -, named⟩ := Option.bind_eq_some_iff.mp isSpan
    obtain ⟨entry, found, counted⟩ := Option.bind_eq_some_iff.mp named
    obtain ⟨millis, -, checked⟩ := Option.bind_eq_some_iff.mp counted
    obtain ⟨positive, ⟨⟩⟩ := Option.ite_none_right_eq_some.mp checked
    exact ⟨⟨entry, found⟩, positive⟩

/-- The text of a span is no number. -/
theorem readFloat?_eq_none {width : String} (isSpan : ofText? width = some span) :
    readFloat? (trim width.toList) = none := by
  obtain ⟨⟨entry, found⟩, -⟩ := exists_unit isSpan
  obtain ⟨first, later, spelled, letter⟩ := exists_unit_head found
  rw [String.toList_ofList] at spelled
  rw [← Option.not_isSome_iff_eq_none]
  intro read
  have marks := head_of_readFloat? read
  cases behind : ((trim width.toList).map Char.toLower).dropWhile isDigit with
  | nil =>
      rw [behind] at spelled
      cases spelled
  | cons mark rest =>
      have isMark := marks mark (by rw [behind]; rfl)
      have apart : ∀ c ∈ ['+', '-', '.', 'e', 'i', 'n'],
          isBlank c = false ∧ c ∉ ['s', 'm', 'h', 'd', 'w', 'y'] := by
        simp only [List.forall_mem_cons]
        simp [isBlank]
      obtain ⟨solid, noLetter⟩ := apart mark isMark
      have kept := head?_trim solid rest
      rw [behind] at spelled
      rw [spelled] at kept
      cases kept
      exact noLetter letter

/-! ## The starts of buckets -/

theorem dvd_floor (time : Int) : span.millis ∣ span.floor time :=
  Int.dvd_mul_left _ _

section Positive

variable (positive : 0 < span.millis)

include positive

theorem floor_le (time : Int) : span.floor time ≤ time :=
  Int.ediv_mul_le time (Int.ne_of_gt positive)

theorem lt_floor_add (time : Int) : time < span.floor time + span.millis :=
  Int.lt_ediv_add_one_mul_self time positive |>.trans_eq (by rw [floor, Int.add_mul, Int.one_mul])

/-- The bucket that starts at a multiple of the span holds the times up to the next multiple. -/
theorem floor_eq_iff {time start : Int} (multiple : span.millis ∣ start) :
    span.floor time = start ↔ start ≤ time ∧ time < start + span.millis := by
  constructor
  · rintro rfl
    exact ⟨floor_le positive time, lt_floor_add positive time⟩
  · rintro ⟨least, most⟩
    obtain ⟨count, rfl⟩ := multiple
    have isCount : time / span.millis = count := by
      apply Int.le_antisymm
      · apply Int.lt_add_one_iff.mp
        rw [Int.ediv_lt_iff_lt_mul positive, Int.add_mul, Int.one_mul, Int.mul_comm count]
        exact most
      · rw [Int.le_ediv_iff_mul_le positive, Int.mul_comm]
        exact least
    rw [floor, isCount, Int.mul_comm]

/-- Buckets of a span lie inside the buckets of its multiples. -/
theorem floor_floor {factor : Int} (multiple : larger.millis = factor * span.millis)
    (time : Int) : larger.floor (span.floor time) = larger.floor time := by
  have inner : time / span.millis * span.millis / (factor * span.millis) =
      time / span.millis / factor :=
    Int.mul_ediv_mul_of_pos_left _ _ positive
  have outer : time / (factor * span.millis) = time / span.millis / factor := by
    rw [Int.mul_comm, Int.ediv_ediv_of_nonneg (Int.le_of_lt positive)]
  rw [floor, floor, floor, multiple, inner, outer]

/-- A time whose bucket of a multiple span starts in range has a bucket of the span that does. -/
theorem inRange_floor {factor : Int} (some : 1 ≤ factor)
    (multiple : larger.millis = factor * span.millis) {time : Int64}
    (inRange : InRange (larger.floor time.toInt)) : InRange (span.floor time.toInt) := by
  have largerPositive : 0 < larger.millis := by
    rw [multiple]
    exact Int.mul_pos (Int.lt_of_lt_of_le (by decide) some) positive
  constructor
  · rw [← floor_floor positive multiple] at inRange
    exact Int.le_trans inRange.1 (floor_le largerPositive _)
  · exact Int.le_trans (floor_le positive _) (inRange_toInt time).2

end Positive

/-! ## The buckets of cells -/

/-- The start of the bucket of a time. -/
def start (span : Span) (time : Int64) : Int64 :=
  Int64.ofInt (span.floor time.toInt)

theorem start_start {factor : Int} (positive : 0 < span.millis)
    (multiple : larger.millis = factor * span.millis) {time : Int64}
    (inRange : InRange (span.floor time.toInt)) :
    larger.start (span.start time) = larger.start time := by
  rw [start, start, start, toInt_ofInt_of_inRange inRange, floor_floor positive multiple]

/-- The bucket of a cell. -/
def bucket (span : Span) (cell : Cell) : Cell :=
  match cell.timeValue? with
  | some time => .time (span.start time)
  | none => .null

theorem bucket_of_time {cell : Cell} {time : Int64} (stands : cell.timeValue? = some time) :
    span.bucket cell = .time (span.start time) := by
  rw [bucket, stands]

theorem bucket_of_noTime {cell : Cell} (noTime : cell.timeValue? = none) :
    span.bucket cell = .null := by
  rw [bucket, noTime]

theorem kind_bucket (span : Span) (cell : Cell) :
    (span.bucket cell).kind = .null ∨ (span.bucket cell).kind = .time := by
  cases stands : cell.timeValue? with
  | none =>
      rw [bucket_of_noTime stands]
      exact Or.inl rfl
  | some time =>
      rw [bucket_of_time stands]
      exact Or.inr rfl

end Span

namespace Cell

/-- A missing cell stands for no time. -/
theorem timeValue?_of_isMissing {cell : Cell} (missing : cell.isMissing = true) :
    cell.timeValue? = none := by
  cases cell with
  | missing marker => rfl
  | float x =>
      have isNaN : x.toModel.unpack.isNaN = true := missing
      have notFinite : x.isFinite = false := by
        change x.toModel.unpack.isFinite = false
        cases shape : x.toModel.unpack with
        | notANumber => rfl
        | _ =>
            rw [shape] at isNaN
            cases isNaN
      rw [timeValue?, notFinite]
      rfl
  | _ => cases missing

end Cell

/-- The times that the cells of a column stand for. -/
def Column.times (column : Column) : List Int64 :=
  column.cells.filterMap Cell.timeValue?

namespace Stats

open LogPipe.Span

variable {span larger : Span} {name : String} {cells : List Cell}

theorem mapCells_of_ok {f : Cell → Except StatsError Cell} {g : Cell → Cell}
    (each : ∀ cell ∈ cells, f cell = .ok (g cell)) : mapCells f cells = .ok (cells.map g) := by
  induction cells with
  | nil => rfl
  | cons cell cells induction =>
      rw [List.forall_mem_cons] at each
      rw [mapCells, each.1, induction each.2]
      rfl

/-- A cell is missing or stands for a time. -/
def IsTimely (cell : Cell) : Prop :=
  cell.isMissing = true ∨ ∃ time, cell.timeValue? = some time

theorem binTime_of_isTimely {cell : Cell} (timely : IsTimely cell) :
    binTime name span cell = .ok (span.bucket cell) := by
  rw [binTime]
  rcases timely with missing | ⟨time, stands⟩
  · rw [if_pos missing, bucket_of_noTime (Cell.timeValue?_of_isMissing missing)]
  · have present : ¬cell.isMissing = true := by
      intro missing
      rw [Cell.timeValue?_of_isMissing missing] at stands
      cases stands
    rw [if_neg present, stands, bucket_of_time stands]
    rfl

/-- The buckets of cells, of which the first that stands for no time is refused whatever the
span. -/
theorem mapCells_binTime (name : String) (cells : List Cell) :
    (∀ span, mapCells (binTime name span) cells = .ok (cells.map span.bucket)) ∨
      ∃ error, ∀ span, mapCells (binTime name span) cells = .error error := by
  induction cells with
  | nil => exact Or.inl fun _ => rfl
  | cons cell cells induction =>
      by_cases timely : IsTimely cell
      · rcases induction with bucketed | ⟨error, refused⟩
        · refine Or.inl fun span => ?_
          rw [mapCells, binTime_of_isTimely timely, bucketed]
          rfl
        · refine Or.inr ⟨error, fun span => ?_⟩
          rw [mapCells, binTime_of_isTimely timely, refused]
          rfl
      · rw [IsTimely, not_or, not_exists] at timely
        have noTime : cell.timeValue? = none := Option.eq_none_iff_forall_ne_some.mpr timely.2
        refine Or.inr ⟨.invalidTime name cell.written, fun span => ?_⟩
        rw [mapCells, binTime, if_neg timely.1, noTime]
        rfl

/-- A cell of the lossy column of buckets is missing or the bucket of a time. -/
theorem coerce_bucket (span : Span) {cell : Cell} (member : cell ∈ cells) :
    (cell.timeValue? = none ∧
        (Column.coerce (Column.lossyKind (cells.map span.bucket))
          (span.bucket cell)).isMissing = true) ∨
      ∃ time, cell.timeValue? = some time ∧
        Column.coerce (Column.lossyKind (cells.map span.bucket)) (span.bucket cell) =
          .time (span.start time) := by
  cases stands : cell.timeValue? with
  | none =>
      rw [bucket_of_noTime stands]
      exact Or.inl ⟨rfl, Column.isMissing_coerce_null _⟩
  | some time =>
      refine Or.inr ⟨time, rfl, ?_⟩
      have isTime : span.bucket cell = .time (span.start time) := bucket_of_time stands
      rw [← isTime]
      apply Column.coerce_lossyKind _ (List.mem_map_of_mem member)
      rw [List.forall_mem_map, isTime]
      exact fun other _ => kind_bucket span other

theorem binTimes_of_isTimely {column : Column} (timely : ∀ cell ∈ column.cells, IsTimely cell) :
    binTimes name column span = .ok (Column.lossy (column.cells.map span.bucket)) := by
  rw [binTimes, mapCells_of_ok fun cell member => binTime_of_isTimely (timely cell member)]
  rfl

/-- Putting times into buckets and these into larger buckets is putting the times into the larger
buckets. -/
theorem binTimes_binTimes {factor : Int} (positive : 0 < span.millis) (some : 1 ≤ factor)
    (multiple : larger.millis = factor * span.millis) (name : String) (column : Column)
    (inRange : ∀ time ∈ column.times, InRange (larger.floor time.toInt)) :
    (do
      let buckets ← binTimes name column span
      binTimes name buckets larger) = binTimes name column larger := by
  rcases mapCells_binTime name column.cells with bucketed | ⟨error, refused⟩
  · have kept : ∀ cell ∈ column.cells,
        IsTimely (Column.coerce (Column.lossyKind (column.cells.map span.bucket))
          (span.bucket cell)) ∧
        larger.bucket (Column.coerce (Column.lossyKind (column.cells.map span.bucket))
          (span.bucket cell)) = larger.bucket cell := by
      intro cell member
      rcases coerce_bucket span member with ⟨noTime, missing⟩ | ⟨time, stands, isTime⟩
      · refine ⟨Or.inl missing, ?_⟩
        rw [bucket_of_noTime (Cell.timeValue?_of_isMissing missing), bucket_of_noTime noTime]
      · have listed : time ∈ column.times := List.mem_filterMap.mpr ⟨cell, member, stands⟩
        have inside := inRange_floor positive some multiple (inRange time listed)
        refine ⟨Or.inr ⟨_, by rw [isTime]; rfl⟩, ?_⟩
        rw [isTime, bucket_of_time stands, bucket_of_time rfl, start_start positive multiple inside]
    have again : ∀ cell ∈ (Column.lossy (column.cells.map span.bucket)).cells, IsTimely cell := by
      rw [Column.lossy_eq, List.map_map, List.forall_mem_map]
      exact fun cell member => (kept cell member).1
    have cells : (Column.lossy (column.cells.map span.bucket)).cells.map larger.bucket =
        column.cells.map larger.bucket := by
      rw [Column.lossy_eq, List.map_map, List.map_map]
      exact List.map_congr_left fun cell member => (kept cell member).2
    rw [binTimes, binTimes, bucketed, bucketed]
    change binTimes name (Column.lossy (column.cells.map span.bucket)) larger = _
    rw [binTimes_of_isTimely again, cells]
    rfl
  · rw [binTimes, binTimes, refused, refused]
    rfl

end Stats

/-! ## Times in whole seconds -/

/-- The cells that tell a time in whole seconds: their number, the time and its text. -/
inductive Cell.Tells (seconds : Int64) : Cell → Prop where
  | number : Tells seconds (.int seconds)
  | time {millis : Int64} : millis.toInt = seconds.toInt * 1000 → Tells seconds (.time millis)
  | text {millis : Int64} : millis.toInt = seconds.toInt * 1000 →
      Tells seconds (.text (Cell.time millis).written)

/-- A cell tells when an event was, or is missing. -/
inductive Cell.TellsEvent : Option Int64 → Cell → Prop where
  | missing {cell : Cell} : cell.isMissing = true → TellsEvent none cell
  | second {seconds : Int64} {cell : Cell} : FourDigitYear (seconds.toInt * 1000) →
      cell.Tells seconds → TellsEvent (some seconds) cell

/-- The bucket of an event. -/
def Span.bucketOfEvent (span : Span) : Option Int64 → Cell
  | none => .null
  | some seconds => .time (Int64.ofInt (span.floor (seconds.toInt * 1000)))

section Seconds

variable {seconds : Int64} {cell : Cell} {span : Span} {event : Option Int64}
  {events : List (Option Int64)} {column one other : Column}

theorem inRange_of_fourDigitYear {millis : Int} (fourDigits : FourDigitYear millis) :
    InRange millis := by
  obtain ⟨least, most⟩ := fourDigitYear_iff.mp fourDigits
  exact ⟨Int.le_trans (by decide) least, Int.le_trans (Int.le_of_lt most) (by decide)⟩

/-- The cells that tell a time stand for the same one. -/
theorem Cell.Tells.timeValue?_eq (tells : cell.Tells seconds)
    (fourDigits : FourDigitYear (seconds.toInt * 1000)) :
    cell.timeValue? = some (Int64.ofInt (seconds.toInt * 1000)) := by
  cases tells with
  | number => exact int64?_of_inRange (inRange_of_fourDigitYear fourDigits)
  | time same => rw [← same, Int64.ofInt_toInt, timeValue?]
  | text same =>
      rw [← same] at fourDigits
      rw [timeValue?, written, readTime?_writeTime fourDigits, same]
      rfl

theorem Cell.TellsEvent.bucket_eq (tells : Cell.TellsEvent event cell) (span : Span) :
    Stats.IsTimely cell ∧ span.bucket cell = span.bucketOfEvent event := by
  cases tells with
  | missing missing =>
      exact ⟨Or.inl missing, Span.bucket_of_noTime (timeValue?_of_isMissing missing)⟩
  | second fourDigits tells =>
      have stands := tells.timeValue?_eq fourDigits
      have millis := toInt_ofInt_of_inRange (inRange_of_fourDigitYear fourDigits)
      refine ⟨Or.inr ⟨_, stands⟩, ?_⟩
      rw [Span.bucket_of_time stands]
      exact congrArg (fun time => Cell.time (Int64.ofInt (span.floor time))) millis

theorem Cell.bucket_of_tellsEvent (span : Span) {cells : List Cell}
    (tells : List.Forall₂ Cell.TellsEvent events cells) :
    (∀ cell ∈ cells, Stats.IsTimely cell) ∧
      cells.map span.bucket = events.map span.bucketOfEvent := by
  induction tells with
  | nil => exact ⟨List.forall_mem_nil _, rfl⟩
  | cons first _ induction =>
      obtain ⟨timely, bucket⟩ := first.bucket_eq span
      rw [List.forall_mem_cons, List.map_cons, List.map_cons, bucket, induction.2]
      exact ⟨⟨timely, induction.1⟩, rfl⟩

namespace Stats

theorem binTimes_of_tellsEvent (tells : List.Forall₂ Cell.TellsEvent events column.cells)
    (name : String) (span : Span) :
    binTimes name column span = .ok (Column.lossy (events.map span.bucketOfEvent)) := by
  obtain ⟨timely, buckets⟩ := Cell.bucket_of_tellsEvent span tells
  rw [binTimes_of_isTimely timely, buckets]

/-- A width that is a span puts times into buckets, even when they are numbers. -/
theorem binColumn_of_span {width : String} (isSpan : Span.ofText? width = some span)
    (name : String) (column : Column) :
    Aggregation.binColumn name column width = binTimes name column span := by
  simp only [Aggregation.binColumn, Span.readFloat?_eq_none isSpan, ite_self, Span.ofText, isSpan]

/-- A summary over time only depends on the buckets of the times. -/
theorem timechart_congr {table first second : Table} (sized : one.size = other.size)
    (isFirst : table.withColumn timeField one = .ok first)
    (isSecond : table.withColumn timeField other = .ok second)
    (binned : ∀ span, binTimes timeField one span = binTimes timeField other span)
    (text : String) (default : Span) :
    timechart first text default = timechart second text default := by
  have replaced := Table.withColumn_congr sized isFirst isSecond
  simp only [timechart, Table.column?_withColumn isFirst, Table.column?_withColumn isSecond,
    binned, replaced]

/-- Every time of a year with four digits is read back from its text.  So whole seconds stand for
the same time whether they are given by their number, as a time or by its text, and are put into
the same buckets. -/
theorem written_times_agree :
    (∀ millis : Int, FourDigitYear millis → readTime? (writeTime millis) = some millis) ∧
    (∀ (seconds : Int64) (cell : Cell), FourDigitYear (seconds.toInt * 1000) →
      cell.Tells seconds →
        ∃ millis, millis.toInt = seconds.toInt * 1000 ∧ cell.timeValue? = some millis) ∧
    ∀ (events : List (Option Int64)) (one other : Column),
      List.Forall₂ Cell.TellsEvent events one.cells →
      List.Forall₂ Cell.TellsEvent events other.cells →
      (∀ (name width : String) (span : Span), Span.ofText? width = some span →
        Aggregation.binColumn name one width =
            .ok (Column.lossy (events.map span.bucketOfEvent)) ∧
          Aggregation.binColumn name other width =
            .ok (Column.lossy (events.map span.bucketOfEvent))) ∧
      ∀ (table first second : Table), table.withColumn timeField one = .ok first →
        table.withColumn timeField other = .ok second →
        ∀ (text : String) (default : Span),
          timechart first text default = timechart second text default := by
  refine ⟨fun millis fourDigits => readTime?_writeTime fourDigits, ?_, ?_⟩
  · intro seconds cell fourDigits tells
    exact ⟨_, toInt_ofInt_of_inRange (inRange_of_fourDigitYear fourDigits),
      tells.timeValue?_eq fourDigits⟩
  · intro events one other isOne isOther
    have bins {column : Column} (tells : List.Forall₂ Cell.TellsEvent events column.cells)
        (name : String) (span : Span) := binTimes_of_tellsEvent tells name span
    constructor
    · intro name width span isSpan
      rw [binColumn_of_span isSpan, binColumn_of_span isSpan, bins isOne, bins isOther]
      exact ⟨rfl, rfl⟩
    · intro table first second isFirst isSecond text default
      have sized : one.size = other.size := isOne.length_eq.symm.trans isOther.length_eq
      refine timechart_congr sized isFirst isSecond (fun span => ?_) text default
      rw [bins isOne, bins isOther]

/-- Two moments around the epoch and one that is missing, as seconds. -/
def momentNumbers : Column :=
  ⟨.int, [.int 0, .null, .int (-1)]⟩

/-- The same moments as texts. -/
def momentTexts : Column :=
  ⟨.text, [.text "1970-01-01 00:00:00", .null, .text "1969-12-31 23:59:59"]⟩

/-- The last moment lies in the hour before the epoch, however it is written. -/
theorem written_times_agree_moments :
    readTime? "1969-12-31 23:59:59.999" = some (-1) ∧
    Aggregation.binColumn "_time" momentNumbers "1h" =
      .ok ⟨.time, [.time 0, .missing .nat, .time (-3600000)]⟩ ∧
    Aggregation.binColumn "_time" momentTexts "1h" =
      .ok ⟨.time, [.time 0, .missing .nat, .time (-3600000)]⟩ ∧
    timechart ⟨3, [("_time", momentNumbers)]⟩ "count" ⟨3600000⟩ =
      timechart ⟨3, [("_time", momentTexts)]⟩ "count" ⟨3600000⟩ := by
  obtain ⟨reads, stands, buckets⟩ := written_times_agree
  have epoch : FourDigitYear ((0 : Int64).toInt * 1000) := by decide
  have before : FourDigitYear ((-1 : Int64).toInt * 1000) := by decide
  have numbers : List.Forall₂ Cell.TellsEvent [some 0, none, some (-1)] momentNumbers.cells :=
    .cons (.second epoch .number) (.cons (.missing rfl) (.cons (.second before .number) .nil))
  have epochText : (Cell.time 0).written = "1970-01-01 00:00:00" := by decide +kernel
  have beforeText : (Cell.time (-1000)).written = "1969-12-31 23:59:59" := by decide +kernel
  have atEpoch : Cell.Tells 0 (.text "1970-01-01 00:00:00") :=
    epochText ▸ @Cell.Tells.text 0 0 (by decide)
  have beforeEpoch : Cell.Tells (-1) (.text "1969-12-31 23:59:59") :=
    beforeText ▸ @Cell.Tells.text (-1) (-1000) (by decide)
  have texts : List.Forall₂ Cell.TellsEvent [some 0, none, some (-1)] momentTexts.cells :=
    .cons (.second epoch atEpoch) (.cons (.missing rfl) (.cons (.second before beforeEpoch) .nil))
  obtain ⟨binned, charted⟩ := buckets _ _ _ numbers texts
  have hour : Span.ofText? "1h" = some ⟨3600000⟩ := by decide +kernel
  have millisecond : writeTime (-1) = "1969-12-31 23:59:59.999" := by decide +kernel
  have hours : Column.lossy ([some 0, none, some (-1)].map (Span.bucketOfEvent ⟨3600000⟩)) =
      ⟨.time, [.time 0, .missing .nat, .time (-3600000)]⟩ := by decide +kernel
  have inHours := binned "_time" "1h" _ hour
  rw [hours] at inHours
  exact ⟨millisecond ▸ reads (-1) (by decide), inHours.1, inHours.2,
    charted ⟨3, [("_time", Column.nulls 3)]⟩ _ _ rfl rfl _ _⟩

end Stats

end Seconds

end LogPipe
