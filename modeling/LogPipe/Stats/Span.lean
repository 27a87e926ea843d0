import LogPipe.Stats.Summary

/-!
# Time spans and buckets

A span is a positive number of milliseconds. Times are put into buckets that start at the
multiples of a span, numbers into buckets that start at the multiples of a width.
-/

namespace LogPipe

open LogPipe.Calendar LogPipe.Decimal LogPipe.Text

/-- The width of a time bucket. -/
structure Span where
  millis : Int
deriving DecidableEq, Repr

namespace Span

/-- The units of spans with their names, in milliseconds. -/
def units : List (List String × Int) :=
  [ (["s", "sec", "secs", "second", "seconds"], 1000),
    (["m", "min", "mins", "minute", "minutes"], 60000),
    (["h", "hr", "hrs", "hour", "hours"], 3600000),
    (["d", "day", "days"], 86400000),
    (["w", "week", "weeks"], 604800000),
    (["y", "yr", "yrs", "year", "years"], 31536000000) ]

/-- The span of a count and a unit; a missing count means one. -/
def ofText? (text : String) : Option Span := do
  let normal := (trim text.toList).map Char.toLower
  let digits := normal.takeWhile isDigit
  let unit := String.ofList (trim (normal.dropWhile isDigit))
  let count ← if digits.isEmpty then some 1 else (readInt64? digits).map Int64.toInt
  let entry ← units.find? fun entry => entry.1.contains unit
  let millis ← int64? (count * entry.2)
  if 0 < millis.toInt then some ⟨millis.toInt⟩ else none

/-- The span of a text, or the error that it is none. -/
def ofText (text : String) : Except StatsError Span :=
  match ofText? text with
  | some span => .ok span
  | none => .error (.invalidSpan text)

/-- The start of the bucket that holds a time. -/
def floor (span : Span) (millis : Int) : Int :=
  millis / span.millis * span.millis

end Span

namespace Cell

/-- The time a cell stands for, in milliseconds: a time itself, a number of seconds, or a
text that reads as a time. -/
def timeValue? : Cell → Option Int64
  | .time millis => some millis
  | .int seconds => int64? (seconds.toInt * 1000)
  | .float seconds =>
      if seconds.isFinite then some (saturate (seconds * 1000.0).floor) else none
  | .text value => (readTime? value).map Int64.ofInt
  | _ => none

end Cell

namespace Stats

/-- Applies a function to cells, stopping at the first that it refuses. -/
def mapCells (f : Cell → Except StatsError Cell) : List Cell → Except StatsError (List Cell)
  | [] => .ok []
  | cell :: cells => do
      let mapped ← f cell
      let rest ← mapCells f cells
      pure (mapped :: rest)

/-- The time bucket of a cell; a missing cell stays missing. -/
def binTime (name : String) (span : Span) (cell : Cell) : Except StatsError Cell :=
  if cell.isMissing then .ok .null
  else
    match cell.timeValue? with
    | some millis => .ok (.time (Int64.ofInt (span.floor millis.toInt)))
    | none => .error (.invalidTime name cell.written)

/-- The time buckets of a column. -/
def binTimes (name : String) (column : Column) (span : Span) : Except StatsError Column :=
  (mapCells (binTime name span) column.cells).map Column.lossy

/-- The numeric bucket of a cell. Integers stay integers when the width is one. -/
def binNumber (name : String) (width : Float) (cell : Cell) : Except StatsError Cell :=
  if cell.isMissing then .ok .null
  else
    let onFloats : Except StatsError Cell :=
      match cell.numericValue with
      | some x => .ok (.float ((x / width).floor * width))
      | none => .error (.invalidTime name cell.written)
    match cell with
    | .int value =>
        if isWhole width && width < 9.0e15 then
          let step := (saturate width).toInt
          .ok (.int (Int64.ofInt (value.toInt / step * step)))
        else onFloats
    | _ => onFloats

/-- The numeric buckets of a column; the width has to be positive and finite. -/
def binNumbers (name : String) (column : Column) (width : Float) : Except StatsError Column :=
  if width.isFinite && 0.0 < width then
    (mapCells (binNumber name width) column.cells).map Column.lossy
  else
    .error (.invalidSpan (Layout.plain.write width))

/-- The column of event times. -/
def timeField : String := "_time"

/-- Takes the spans out of a list of tokens; the last one counts. -/
def takeSpan (span : Span) : List Query.Token → Except StatsError (Span × List Query.Token)
  | [] => .ok (span, [])
  | [token] => .ok (span, [token])
  | token :: sign :: rest =>
      if token.isKeyword "span" && sign.isOperator "=" then
        match rest with
        | [] => .error (.invalidSpan "")
        | value :: rest =>
            match Span.ofText value.unquoted with
            | .ok span => takeSpan span rest
            | .error error => .error error
      else
        (takeSpan span (sign :: rest)).map fun (span, tokens) => (span, token :: tokens)

/-- Summarizes a table over time: the event times are put into buckets, which are the last
grouping column. -/
def timechart (table : Table) (text : String) (defaultSpan : Span) :
    Except StatsError Table := do
  let tokens ← (Query.lex text).mapError .lex
  let (span, rest) ← takeSpan defaultSpan tokens
  let clause ← StatsClause.ofTokens rest text
  let groupBy := clause.groupBy.filter (fun name => name != timeField) ++ [timeField]
  match table.column? timeField with
  | none => .error (.missingColumn timeField)
  | some column => do
      let buckets ← binTimes timeField column span
      let binned ← (table.withColumn timeField buckets).mapError .table
      summarize binned { clause with groupBy := groupBy }

end Stats

end LogPipe
