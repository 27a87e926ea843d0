import LogPipe.Calendar.Civil
import LogPipe.Decimal.Reading

/-!
# Times read from text

A time is read as an internet timestamp with a zone, then by a list of patterns without
a zone, which are taken as UTC, and last as a date alone. The first reading that uses
the whole text wins.
-/

namespace LogPipe.Calendar

open LogPipe.Text LogPipe.Decimal

/-- The fields of a written time; the clock is at midnight unless told otherwise. -/
structure Fields where
  year : Int := 0
  month : Nat := 0
  day : Nat := 0
  hour : Nat := 0
  minute : Nat := 0
  second : Nat := 0
  /-- Milliseconds of the written fraction. -/
  milli : Nat := 0
deriving DecidableEq, Repr

/-- Epoch milliseconds of the fields, when they name a time. A second 60 is a leap second
and counts like the second that follows it. -/
def Fields.toMillis? (fields : Fields) : Option Int :=
  let date : Date := ⟨fields.year, fields.month, fields.day⟩
  if date.isValid && fields.hour ≤ 23 && fields.minute ≤ 59 && fields.second ≤ 60 then
    some (date.toDays * dayMillis +
      (((fields.hour * 60 + fields.minute) * 60 + fields.second) * 1000 + fields.milli : Nat))
  else
    none

/-- Reads between `least` and `most` digits from the front. -/
def takeNumber? (least most : Nat) (text : List Char) : Option (Nat × List Char) :=
  let digits := (text.take most).takeWhile isDigit
  if digits.length < least then none
  else some (digitsValue digits, text.drop digits.length)

/-- Reads the digits after a decimal point. Nine count, later ones are skipped; the value
is in whole milliseconds. -/
def takeFraction? (text : List Char) : Option (Nat × List Char) :=
  let digits := text.takeWhile isDigit
  if digits.isEmpty then none
  else
    let kept := (digits ++ ['0', '0']).take 3
    some (digitsValue kept, text.dropWhile isDigit)

/-- Reads one expected character from the front. -/
def takeChar? (expected : Char) : List Char → Option (List Char)
  | c :: rest => if c == expected then some rest else none
  | [] => none

/-- Reads a zone offset, in minutes east of UTC. -/
def takeOffset? (text : List Char) : Option (Int × List Char) :=
  match text with
  | [] => none
  | sign :: rest =>
      if sign == 'Z' || sign == 'z' then some (0, rest)
      else if sign == '+' || sign == '-' || sign == '\u2212' then do
        let (hours, rest) ← takeNumber? 2 2 rest
        let rest ← takeChar? ':' rest
        let (minutes, rest) ← takeNumber? 2 2 rest
        if 59 < minutes || 23 < hours then none
        else
          let offset : Int := hours * 60 + minutes
          some (if sign == '+' then offset else -offset, rest)
      else none

/-- Reads an internet timestamp: every field has its full width, the date and the clock
are joined by a letter T or a space, and a zone is required. -/
def readTimestamp? (text : List Char) : Option Int := do
  let (year, text) ← takeNumber? 4 4 text
  let text ← takeChar? '-' text
  let (month, text) ← takeNumber? 2 2 text
  let text ← takeChar? '-' text
  let (day, text) ← takeNumber? 2 2 text
  let text ←
    match text with
    | c :: rest => if c == 'T' || c == 't' || c == ' ' then some rest else none
    | [] => none
  let (hour, text) ← takeNumber? 2 2 text
  let text ← takeChar? ':' text
  let (minute, text) ← takeNumber? 2 2 text
  let text ← takeChar? ':' text
  let (second, text) ← takeNumber? 2 2 text
  let (milli, text) ←
    match text with
    | '.' :: rest => takeFraction? rest
    | rest => some (0, rest)
  let (offset, text) ← takeOffset? text
  let millis ← Fields.toMillis? ⟨year, month, day, hour, minute, second, milli⟩
  if text.isEmpty then some (millis - offset * 60000) else none

/-- One part of a time pattern. -/
inductive Part where
  | year
  | month
  | day
  | hour
  | minute
  | second
  /-- A point and digits, or nothing. -/
  | fraction
  /-- Any number of blanks. -/
  | gap
  | char (c : Char)

/-- Reads a number of one or two digits after any blanks. -/
def takeField? (text : List Char) : Option (Nat × List Char) :=
  takeNumber? 1 2 (trimLeft text)

/-- Reads a year after any blanks: up to four digits, or a sign and any number of them. -/
def takeYear? (text : List Char) : Option (Int × List Char) :=
  match trimLeft text with
  | '-' :: rest => (takeNumber? 1 rest.length rest).map fun (n, rest) => (-(n : Int), rest)
  | '+' :: rest => (takeNumber? 1 rest.length rest).map fun (n, rest) => ((n : Int), rest)
  | rest => (takeNumber? 1 4 rest).map fun (n, rest) => ((n : Int), rest)

/-- Reads one part of a pattern into the fields. -/
def Part.take? (part : Part) (fields : Fields) (text : List Char) :
    Option (Fields × List Char) :=
  match part with
  | .year => (takeYear? text).map fun (n, rest) => ({ fields with year := n }, rest)
  | .month => (takeField? text).map fun (n, rest) => ({ fields with month := n }, rest)
  | .day => (takeField? text).map fun (n, rest) => ({ fields with day := n }, rest)
  | .hour => (takeField? text).map fun (n, rest) => ({ fields with hour := n }, rest)
  | .minute => (takeField? text).map fun (n, rest) => ({ fields with minute := n }, rest)
  | .second => (takeField? text).map fun (n, rest) => ({ fields with second := n }, rest)
  | .fraction =>
      match text with
      | '.' :: rest =>
          (takeFraction? rest).map fun (n, rest) => ({ fields with milli := n }, rest)
      | rest => some (fields, rest)
  | .gap => some (fields, trimLeft text)
  | .char c => (takeChar? c text).map fun rest => (fields, rest)

/-- Reads a whole text by a pattern. -/
def readPattern? (fields : Fields) : List Part → List Char → Option Int
  | [], [] => fields.toMillis?
  | [], _ :: _ => none
  | part :: parts, text =>
      match part.take? fields text with
      | some (fields, rest) => readPattern? fields parts rest
      | none => none

/-- Year, month and day joined by a character. -/
def yearFirst (separator : Char) : List Part :=
  [.year, .char separator, .month, .char separator, .day]

/-- Hour, minute and second. -/
def clock : List Part :=
  [.hour, .char ':', .minute, .char ':', .second]

/-- The patterns without a zone, in the order in which they are tried. -/
def patterns : List (List Part) :=
  [ yearFirst '-' ++ [.gap] ++ clock ++ [.fraction],
    yearFirst '-' ++ [.char 'T'] ++ clock ++ [.fraction],
    yearFirst '-' ++ [.gap, .hour, .char ':', .minute],
    yearFirst '/' ++ [.gap] ++ clock,
    [.month, .char '/', .day, .char '/', .year, .gap] ++ clock,
    yearFirst '-' ]

/-- Reads a text as a time in epoch milliseconds. -/
def readTime? (text : String) : Option Int :=
  let text := trim text.toList
  (readTimestamp? text).or (patterns.findSome? fun pattern => readPattern? {} pattern text)

end LogPipe.Calendar
