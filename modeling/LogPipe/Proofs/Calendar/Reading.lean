import LogPipe.Calendar.Reading
import LogPipe.Proofs.Calendar.Civil
import LogPipe.Proofs.Decimal.Numerals
import LogPipe.Proofs.Text.Trimming
import Mathlib.Data.List.TakeWhile
import Mathlib.Tactic.IntervalCases

/-!
# Written times are read back

A time of a year with four digits is written with all its fields in their full widths, so each
of them is read up to where the next one starts.  The text has no zone, which a timestamp
requires; the first pattern without one reads all of it, and no later pattern is asked.
-/

namespace LogPipe.Calendar

open LogPipe.Decimal LogPipe.Text

/-- Digits that write a number in some width. -/
structure Numeral (width value : Nat) (digits : List Char) : Prop where
  length : digits.length = width
  each : ∀ c ∈ digits, isDigit c = true
  reads : digitsValue digits = value

/-- A number is written in a width that it fits in. -/
theorem numeral_padded {width value : Nat} (positive : 0 < width) (fits : value < 10 ^ width) :
    Numeral width value (padded width value).toList := by
  have short : (Nat.toDigits 10 value).length ≤ width :=
    (Nat.length_toDigits_le_iff (by decide) positive).mpr fits
  rw [padded, String.toList_ofList]
  refine ⟨?_, ?_, ?_⟩
  · rw [List.length_append, List.length_replicate]
    omega
  · rw [List.forall_mem_append]
    constructor
    · intro c member
      rw [List.eq_of_mem_replicate member]
      decide
    · exact fun c member => isDigit_of_mem_toDigits member
  · rw [digitsValue_zeros_append, digitsValue_toDigits]

namespace Numeral

variable {width value : Nat} {digits : List Char} (numeral : Numeral width value digits)

include numeral

theorem takeNumber?_append {least : Nat} (enough : least ≤ width) (rest : List Char) :
    takeNumber? least width (digits ++ rest) = some (value, rest) := by
  obtain ⟨rfl, each, rfl⟩ := numeral
  have front : ((digits ++ rest).take digits.length).takeWhile isDigit = digits := by
    rw [List.take_left]
    exact List.takeWhile_eq_self_iff.mpr each
  rw [takeNumber?]
  simp only [front, List.drop_left]
  rw [if_neg (by omega)]

theorem exists_head (positive : 0 < width) :
    ∃ first later, digits = first :: later ∧ isDigit first = true := by
  obtain ⟨rfl, each, -⟩ := numeral
  cases digits with
  | nil => cases positive
  | cons first later => exact ⟨first, later, rfl, each first List.mem_cons_self⟩

theorem ne_nil (positive : 0 < width) : digits ≠ [] := by
  obtain ⟨first, later, rfl, -⟩ := numeral.exists_head positive
  exact List.cons_ne_nil _ _

theorem tight : Tight digits :=
  tight_of_solid fun c member => isBlank_of_isDigit (numeral.each c member)

/-- Digits do not start with a blank. -/
theorem trimLeft_append (positive : 0 < width) (rest : List Char) :
    trimLeft (digits ++ rest) = digits ++ rest := by
  obtain ⟨first, later, rfl, digit⟩ := numeral.exists_head positive
  apply trimLeft_eq_self
  rintro c ⟨⟩
  exact isBlank_of_isDigit digit

theorem takeField?_append (two : width = 2) (rest : List Char) :
    takeField? (digits ++ rest) = some (value, rest) := by
  subst two
  rw [takeField?, numeral.trimLeft_append (by decide)]
  exact numeral.takeNumber?_append (by decide) rest

theorem takeYear?_append (four : width = 4) (rest : List Char) :
    takeYear? (digits ++ rest) = some ((value : Int), rest) := by
  subst four
  have taken := numeral.takeNumber?_append (show 1 ≤ 4 by decide) rest
  rw [takeYear?, numeral.trimLeft_append (by decide)]
  obtain ⟨first, later, rfl, digit⟩ := numeral.exists_head (by decide)
  split
  · next signed =>
      cases signed
      cases digit
  · next signed =>
      cases signed
      cases digit
  · rw [taken]
    rfl

theorem takeFraction?_eq (three : width = 3) : takeFraction? digits = some (value, []) := by
  obtain ⟨rfl, each, rfl⟩ := numeral
  have whole : digits.takeWhile isDigit = digits := List.takeWhile_eq_self_iff.mpr each
  have nothing : digits.dropWhile isDigit = [] := List.dropWhile_eq_nil_iff.mpr each
  have kept : (digits ++ ['0', '0']).take 3 = digits := by
    rw [← three]
    exact List.take_left
  have someDigit : digits.isEmpty = false := by
    cases digits <;> simp_all
  rw [takeFraction?]
  simp only [whole, nothing, kept, someDigit, Bool.false_eq_true, if_false]

end Numeral

/-! ## The fields of a time -/

/-- The fields of a time. -/
def Fields.ofMillis (millis : Int) : Fields :=
  let date := Date.ofDays (millis / dayMillis)
  let inDay := (millis % dayMillis).toNat
  let seconds := inDay / 1000
  ⟨date.year, date.month, date.day, seconds / 3600, seconds / 60 % 60, seconds % 60,
    inDay % 1000⟩

/-- The fields of a time name the time. -/
theorem Fields.toMillis?_ofMillis {millis : Int}
    (kept : inRange (Date.ofDays (millis / dayMillis)).year = true) :
    (Fields.ofMillis millis).toMillis? = some millis := by
  have inDay : 0 ≤ millis % dayMillis ∧ millis % dayMillis < 86400000 := by
    rw [dayMillis]
    omega
  have whole : millis / dayMillis * dayMillis + millis % dayMillis = millis :=
    Int.ediv_mul_add_emod millis dayMillis
  obtain ⟨clock, isClock⟩ : ∃ clock, clock = (millis % dayMillis).toNat := ⟨_, rfl⟩
  have sameDay : ((millis % dayMillis).toNat : Int) = millis % dayMillis := by omega
  simp only [Fields.ofMillis, Fields.toMillis?, Date.isValid_ofDays kept, ← isClock,
    Bool.true_and, Bool.and_eq_true, decide_eq_true_eq]
  rw [if_pos ⟨⟨by omega, by omega⟩, by omega⟩]
  have parts : ((clock / 1000 / 3600 * 60 + clock / 1000 / 60 % 60) * 60 +
      clock / 1000 % 60) * 1000 + clock % 1000 = clock := by omega
  rw [parts, isClock, sameDay]
  change some ((Date.ofDays (millis / dayMillis)).toDays * dayMillis + _) = _
  rw [Date.toDays_ofDays, whole]

/-- The year of a time has four digits. -/
def FourDigitYear (millis : Int) : Prop :=
  0 ≤ (Fields.ofMillis millis).year ∧ (Fields.ofMillis millis).year ≤ 9999

instance (millis : Int) : Decidable (FourDigitYear millis) :=
  inferInstanceAs (Decidable (_ ∧ _))

/-- Those years start at 0000-01-01 and end with 9999-12-31. -/
theorem fourDigitYear_iff {millis : Int} :
    FourDigitYear millis ↔ -62167219200000 ≤ millis ∧ millis < 253402300800000 := by
  have day : -719528 ≤ millis / dayMillis ∧ millis / dayMillis ≤ 2932896 ↔
      -62167219200000 ≤ millis ∧ millis < 253402300800000 := by
    rw [dayMillis]
    omega
  exact Date.year_ofDays_fourDigits.trans day

/-- A month that has days is one of twelve, and no month has more than 31 of them. -/
theorem monthLength_bounds (year : Int) (month : Nat) :
    monthLength year month ≤ 31 ∧ (0 < monthLength year month → month ≤ 12) := by
  rw [monthLength.eq_def]
  split
  case h_2 => split <;> decide
  case h_13 => exact ⟨by decide, fun absent => absurd absent (by decide)⟩
  all_goals decide

/-- Fields that are written in their widths. -/
structure Fields.Fits (fields : Fields) : Prop where
  sign : 0 ≤ fields.year
  year : Numeral 4 fields.year.toNat (padded 4 fields.year.toNat).toList
  month : Numeral 2 fields.month (padded 2 fields.month).toList
  day : Numeral 2 fields.day (padded 2 fields.day).toList
  hour : Numeral 2 fields.hour (padded 2 fields.hour).toList
  minute : Numeral 2 fields.minute (padded 2 fields.minute).toList
  second : Numeral 2 fields.second (padded 2 fields.second).toList
  milli : Numeral 3 fields.milli (padded 3 fields.milli).toList

theorem FourDigitYear.inRange {millis : Int} (fourDigits : FourDigitYear millis) :
    inRange (Date.ofDays (millis / dayMillis)).year = true := by
  obtain ⟨least, most⟩ := fourDigits
  rw [Calendar.inRange, Bool.and_eq_true, decide_eq_true_eq, decide_eq_true_eq]
  exact ⟨le_trans (by decide) least, le_trans most (by decide)⟩

theorem Fields.fits_ofMillis {millis : Int} (fourDigits : FourDigitYear millis) :
    (Fields.ofMillis millis).Fits := by
  have valid := Date.isValid_ofDays fourDigits.inRange
  have bounds := monthLength_bounds (Date.ofDays (millis / dayMillis)).year
    (Date.ofDays (millis / dayMillis)).month
  simp only [Date.isValid, Bool.and_eq_true, decide_eq_true_eq] at valid
  have month : (Fields.ofMillis millis).month ≤ 12 := bounds.2 (by omega)
  have day : (Fields.ofMillis millis).day ≤ 31 := valid.2.trans bounds.1
  have inDay : (millis % dayMillis).toNat < 86400000 := by
    rw [dayMillis]
    omega
  have hour : (Fields.ofMillis millis).hour < 10 ^ 2 := by
    change (millis % dayMillis).toNat / 1000 / 3600 < 10 ^ 2
    omega
  have sixty (number : Nat) : number % 60 < 10 ^ 2 := by omega
  obtain ⟨least, most⟩ := fourDigits
  refine ⟨least, numeral_padded (by decide) ?_, numeral_padded (by decide) ?_,
    numeral_padded (by decide) ?_, numeral_padded (by decide) hour,
    numeral_padded (by decide) (sixty _), numeral_padded (by decide) (sixty _),
    numeral_padded (by decide) (Nat.mod_lt _ (by decide))⟩
  · omega
  · omega
  · omega

/-! ## Their text -/

/-- A fraction is written only when there is one. -/
def fractionText (milli : Nat) : List Char :=
  if milli = 0 then [] else '.' :: (padded 3 milli).toList

/-- The text of fields. -/
def Fields.stamp (fields : Fields) : List Char :=
  (padded 4 fields.year.toNat).toList ++ '-' :: ((padded 2 fields.month).toList ++
    '-' :: ((padded 2 fields.day).toList ++ ' ' :: ((padded 2 fields.hour).toList ++
      ':' :: ((padded 2 fields.minute).toList ++ ':' :: ((padded 2 fields.second).toList ++
        fractionText fields.milli)))))

/-- A time of a year with four digits is written by its fields. -/
theorem toList_writeTime {millis : Int} (fourDigits : FourDigitYear millis) :
    (writeTime millis).toList = (Fields.ofMillis millis).stamp := by
  have kept := fourDigits.inRange
  have four : (0 ≤ (Date.ofDays (millis / dayMillis)).year &&
      (Date.ofDays (millis / dayMillis)).year ≤ 9999) = true := by
    rw [Bool.and_eq_true, decide_eq_true_eq, decide_eq_true_eq]
    exact fourDigits
  have fraction : (if (millis % dayMillis).toNat % 1000 == 0 then ""
      else "." ++ padded 3 ((millis % dayMillis).toNat % 1000)).toList =
        fractionText ((millis % dayMillis).toNat % 1000) := by
    rw [fractionText]
    simp only [beq_iff_eq]
    split <;> simp
  simp only [writeTime, kept, writeYear, four, if_true, Fields.ofMillis, Fields.stamp,
    String.toList_append, fraction]
  simp

theorem takeChar?_cons (c : Char) (rest : List Char) : takeChar? c (c :: rest) = some rest := by
  rw [takeChar?, if_pos (beq_self_eq_true c)]

section Stamps

variable {fields : Fields} (fits : fields.Fits)

include fits

/-- A stamp has no zone, so it is no timestamp. -/
theorem readTimestamp?_stamp : readTimestamp? fields.stamp = none := by
  obtain ⟨-, year, month, day, hour, minute, second, milli⟩ := fits
  -- The fields are read one by one, up to the place where the zone would stand.
  rw [readTimestamp?, Fields.stamp, year.takeNumber?_append (le_refl 4)]
  dsimp only [bind, Option.bind]
  rw [takeChar?_cons]
  dsimp only
  rw [month.takeNumber?_append (le_refl 2)]
  dsimp only
  rw [takeChar?_cons]
  dsimp only
  rw [day.takeNumber?_append (le_refl 2)]
  dsimp only
  rw [if_pos (by decide)]
  rw [hour.takeNumber?_append (le_refl 2)]
  dsimp only
  rw [takeChar?_cons]
  dsimp only
  rw [minute.takeNumber?_append (le_refl 2)]
  dsimp only
  rw [takeChar?_cons]
  dsimp only
  rw [second.takeNumber?_append (le_refl 2)]
  dsimp only
  by_cases whole : fields.milli = 0
  · rw [fractionText, if_pos whole]
    rfl
  · rw [fractionText, if_neg whole]
    simp [milli.takeFraction?_eq rfl, takeOffset?]

/-- The first pattern reads all of a stamp. -/
theorem readPattern?_stamp :
    readPattern? {} (yearFirst '-' ++ [.gap] ++ clock ++ [.fraction]) fields.stamp =
      fields.toMillis? := by
  obtain ⟨sign, year, month, day, hour, minute, second, milli⟩ := fits
  have gap (rest : List Char) : trimLeft (' ' :: ((padded 2 fields.hour).toList ++ rest)) =
      (padded 2 fields.hour).toList ++ rest := hour.trimLeft_append (by decide) rest
  have signed : (fields.year.toNat : Int) = fields.year := Int.toNat_of_nonneg sign
  simp only [yearFirst, clock, Fields.stamp, List.cons_append, List.nil_append, readPattern?,
    Part.take?, takeChar?_cons, Option.map_some, gap, signed, year.takeYear?_append rfl,
    month.takeField?_append rfl, day.takeField?_append rfl, hour.takeField?_append rfl,
    minute.takeField?_append rfl, second.takeField?_append rfl]
  by_cases whole : fields.milli = 0
  · have same : ({ fields with milli := 0 } : Fields) = fields := by rw [← whole]
    rw [fractionText, if_pos whole]
    exact congrArg Fields.toMillis? same
  · rw [fractionText, if_neg whole]
    simp [milli.takeFraction?_eq rfl, readPattern?]

/-- A stamp starts and ends with digits. -/
theorem tight_stamp : Tight fields.stamp := by
  obtain ⟨-, year, -, -, -, -, second, milli⟩ := fits
  let middle := '-' :: ((padded 2 fields.month).toList ++ '-' :: ((padded 2 fields.day).toList ++
    ' ' :: ((padded 2 fields.hour).toList ++ ':' :: ((padded 2 fields.minute).toList ++ [':']))))
  by_cases whole : fields.milli = 0
  · have shape : fields.stamp = (padded 4 fields.year.toNat).toList ++ middle ++
        (padded 2 fields.second).toList := by
      simp [Fields.stamp, fractionText, whole, middle]
    rw [shape]
    exact year.tight.append second.tight (year.ne_nil (by decide)) (second.ne_nil (by decide)) _
  · have shape : fields.stamp = (padded 4 fields.year.toNat).toList ++
        (middle ++ (padded 2 fields.second).toList ++ ['.']) ++
          (padded 3 fields.milli).toList := by
      simp [Fields.stamp, fractionText, whole, middle]
    rw [shape]
    exact year.tight.append milli.tight (year.ne_nil (by decide)) (milli.ne_nil (by decide)) _

end Stamps

/-- A written time of a year with four digits is read back. -/
theorem readTime?_writeTime {millis : Int} (fourDigits : FourDigitYear millis) :
    readTime? (writeTime millis) = some millis := by
  have fits := Fields.fits_ofMillis fourDigits
  rw [readTime?, toList_writeTime fourDigits]
  simp only [trim_eq_self (tight_stamp fits), readTimestamp?_stamp fits, Option.none_or, patterns,
    List.findSome?_cons, readPattern?_stamp fits,
    Fields.toMillis?_ofMillis fourDigits.inRange]

end LogPipe.Calendar
