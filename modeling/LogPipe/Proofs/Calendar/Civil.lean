import LogPipe.Calendar.Civil
import Mathlib.Tactic.IntervalCases
import Mathlib.Tactic.Ring

/-!
# Days and dates

Every day has one date, and the date exists in the calendar: the days of an era fall into
centuries, spans of four years and years, of which each has its length but for the last one.
So counting the days up to the date of a day gives the day again.
-/

namespace LogPipe.Calendar

/-- A day of an era by its century, its span of four years, its year and its place in the year.
A year has a last day more when it ends a span of four years, and of the spans that end a century
only the one that ends the era has such a year. -/
structure EraDay (dayOfEra century span year day : Int) : Prop where
  sum : dayOfEra = 36524 * century + 1461 * span + 365 * year + day
  centuries : 0 ≤ century ∧ century ≤ 3
  spans : 0 ≤ span ∧ span ≤ 24
  years : 0 ≤ year ∧ year ≤ 3
  days : 0 ≤ day ∧ day ≤ 365
  leap : day = 365 → year = 3 ∧ (span < 24 ∨ century = 3)

theorem exists_eraDay {dayOfEra : Int} (inEra : 0 ≤ dayOfEra ∧ dayOfEra ≤ 146096) :
    ∃ century span year day, EraDay dayOfEra century span year day := by
  let century := min (dayOfEra / 36524) 3
  let inCentury := dayOfEra - 36524 * century
  let inSpan := inCentury % 1461
  let year := min (inSpan / 365) 3
  refine ⟨century, inCentury / 1461, year, inSpan - 365 * year, ?_, ?_, ?_, ?_, ?_, ?_⟩ <;> omega

/-- The year of a day in its era, once the days that leap years add are taken out. -/
theorem EraDay.yearOfEra {dayOfEra century span year day : Int}
    (parts : EraDay dayOfEra century span year day) :
    (dayOfEra - dayOfEra / 1460 + dayOfEra / 36524 - dayOfEra / 146096) / 365 =
      100 * century + 4 * span + year := by
  obtain ⟨sum, inCentury, inSpan, inYear, inDay, leap⟩ := parts
  by_cases last : dayOfEra = 146096
  · omega
  · have centuries : dayOfEra / 36524 = century := by omega
    have era : dayOfEra / 146096 = 0 := by omega
    -- Up to a day, the leap days before are one for each span of four years.
    let rest := 24 * century + span + 365 * year + day
    have spans : dayOfEra / 1460 = 25 * century + span + rest / 1460 := by omega
    have placed : 0 ≤ day - rest / 1460 ∧ day - rest / 1460 ≤ 364 := by omega
    omega

/-- A day by the year that starts in March and its place in it. -/
structure MarchDay (days era year day : Int) : Prop where
  sum : days + 719468 = 146097 * era + (365 * year + year / 4 - year / 100) + day
  inEra : 0 ≤ year ∧ year ≤ 399
  inYear : 0 ≤ day ∧ day ≤ 365
  leap : day = 365 → (year + 1) % 4 = 0 ∧ ((year + 1) % 100 ≠ 0 ∨ (year + 1) % 400 = 0)

/-- The date of a day of a month, which is counted from March. -/
def Date.ofMonth (year month day : Int) : Date :=
  let civil := if month < 10 then month + 3 else month - 9
  ⟨year + (if civil ≤ 2 then 1 else 0), civil.toNat, day.toNat⟩

/-- The date of a day of a year that starts in March. -/
def Date.ofMarch (year day : Int) : Date :=
  let month := (5 * day + 2) / 153
  .ofMonth year month (day - (153 * month + 2) / 5 + 1)

section Months

variable {year month day : Int} (inYear : 0 ≤ month ∧ month ≤ 11)

include inYear

theorem Date.month_ofMonth :
    ((Date.ofMonth year month day).month : Int) = if month < 10 then month + 3 else month - 9 := by
  simp only [Date.ofMonth]
  split <;> omega

/-- The first two months belong to the year that started in March before. -/
theorem Date.month_ofMonth_le : (Date.ofMonth year month day).month ≤ 2 ↔ ¬month < 10 := by
  have isMonth := @Date.month_ofMonth year month day inYear
  split at isMonth <;> omega

theorem Date.year_ofMonth :
    (Date.ofMonth year month day).year = if month < 10 then year else year + 1 := by
  simp only [Date.ofMonth]
  split <;> split <;> omega

theorem Date.toDays_ofMonth (positive : 1 ≤ day) :
    (Date.ofMonth year month day).toDays =
      146097 * (year / 400) + (365 * (year % 400) + year % 400 / 4 - year % 400 / 100 +
        ((153 * month + 2) / 5 + day - 1)) - 719468 := by
  have isMonth := @Date.month_ofMonth year month day inYear
  have isDay : ((Date.ofMonth year month day).day : Int) = day := Int.toNat_of_nonneg (by omega)
  simp only [Date.toDays, Date.month_ofMonth_le inYear, Date.year_ofMonth inYear, isMonth, isDay]
  by_cases before : month < 10
  · simp only [before, not_true_eq_false, if_true, if_false, add_sub_cancel_right]
  · simp only [before, not_false_eq_true, if_true, if_false, add_sub_cancel_right, sub_add_cancel]

/-- Only the last month of a year that starts in March depends on the year. -/
theorem Date.monthLength_ofMonth :
    (monthLength (Date.ofMonth year month day).year (Date.ofMonth year month day).month : Int) =
      if month = 11 then if isLeap (year + 1) then 29 else 28
      else (153 * (month + 1) + 2) / 5 - (153 * month + 2) / 5 := by
  obtain ⟨least, most⟩ := inYear
  interval_cases month <;> simp [Date.ofMonth, monthLength]

end Months

/-- The leap days before a year are its spans of four years without its centuries. -/
theorem EraDay.year_div {dayOfEra century span year day : Int}
    (parts : EraDay dayOfEra century span year day) :
    (100 * century + 4 * span + year) / 4 = 25 * century + span ∧
      (100 * century + 4 * span + year) / 100 = century := by
  obtain ⟨-, -, inSpan, inYear, -, -⟩ := parts
  constructor <;> omega

theorem EraDay.dayOfYear {dayOfEra century span year day : Int}
    (parts : EraDay dayOfEra century span year day) :
    dayOfEra - (365 * (100 * century + 4 * span + year) + (100 * century + 4 * span + year) / 4 -
      (100 * century + 4 * span + year) / 100) = day := by
  obtain ⟨quarters, centuries⟩ := parts.year_div
  rw [quarters, centuries, parts.sum]
  ring

/-- The year of an era that a day of the era belongs to. -/
theorem EraDay.marchDay {days century span year day : Int}
    (parts : EraDay ((days + 719468) % 146097) century span year day) :
    MarchDay days ((days + 719468) / 146097) (100 * century + 4 * span + year) day := by
  obtain ⟨quarters, centuries⟩ := parts.year_div
  obtain ⟨sum, inCentury, inSpan, inYear, inDay, leap⟩ := parts
  refine ⟨?_, ?_, inDay, ?_⟩
  · rw [quarters, centuries]
    omega
  · omega
  · intro last
    obtain ⟨rfl, early⟩ := leap last
    constructor <;> omega

theorem exists_marchDay (days : Int) :
    ∃ era year day, MarchDay days era year day ∧
      Date.ofDays days = Date.ofMarch (year + 400 * era) day := by
  have inEra : 0 ≤ (days + 719468) % 146097 ∧ (days + 719468) % 146097 ≤ 146096 := by omega
  obtain ⟨century, span, year, day, parts⟩ := exists_eraDay inEra
  refine ⟨_, _, _, parts.marchDay, ?_⟩
  simp only [Date.ofDays, Date.ofMarch, Date.ofMonth]
  rw [parts.yearOfEra, parts.dayOfYear]

/-- A month starts on or before each of its days. -/
theorem month_le (day : Int) : (153 * ((5 * day + 2) / 153) + 2) / 5 ≤ day := by
  have floored : 153 * ((5 * day + 2) / 153) ≤ 5 * day + 2 := Int.mul_ediv_self_le (by decide)
  generalize 153 * ((5 * day + 2) / 153) = start at floored
  omega

theorem Date.one_le_day_ofMarch (year day : Int) : 1 ≤ (Date.ofMarch year day).day := by
  have started := month_le day
  change 1 ≤ (day - (153 * ((5 * day + 2) / 153) + 2) / 5 + 1).toNat
  generalize (153 * ((5 * day + 2) / 153) + 2) / 5 = front at started ⊢
  omega

namespace MarchDay

variable {days era year day : Int} (parts : MarchDay days era year day)

include parts

theorem month : 0 ≤ (5 * day + 2) / 153 ∧ (5 * day + 2) / 153 ≤ 11 := by
  have inYear := parts.inYear
  omega

theorem toDays_ofMarch : (Date.ofMarch (year + 400 * era) day).toDays = days := by
  have started := month_le day
  have inYear := parts.month
  obtain ⟨sum, inEra, -, -⟩ := parts
  have sameEra : (year + 400 * era) / 400 = era := by omega
  have sameYear : (year + 400 * era) % 400 = year := by omega
  rw [Date.ofMarch, Date.toDays_ofMonth inYear (by omega), sameEra, sameYear]
  generalize (153 * ((5 * day + 2) / 153) + 2) / 5 = front
  omega

/-- A year that ends in a last day more is followed by the first months of a leap year. -/
theorem isLeap_of_last (last : day = 365) : isLeap (year + 400 * era + 1) = true := by
  have leap := parts.leap last
  simp only [isLeap, Bool.and_eq_true, Bool.or_eq_true, beq_iff_eq, bne_iff_ne]
  omega

theorem day_le_monthLength :
    (Date.ofMarch (year + 400 * era) day).day ≤
      monthLength (Date.ofMarch (year + 400 * era) day).year
        (Date.ofMarch (year + 400 * era) day).month := by
  have inYear := parts.inYear
  have months := parts.month
  have leap := parts.isLeap_of_last
  have length := @Date.monthLength_ofMonth (year + 400 * era) _
    (day - (153 * ((5 * day + 2) / 153) + 2) / 5 + 1) months
  change (day - (153 * ((5 * day + 2) / 153) + 2) / 5 + 1).toNat ≤ monthLength
    (Date.ofMonth _ _ _).year (Date.ofMonth _ _ _).month
  have above : 5 * day + 2 < 153 * ((5 * day + 2) / 153 + 1) := by
    clear length leap
    omega
  generalize (5 * day + 2) / 153 = month at *
  rw [Int.toNat_le, length]
  by_cases last : month = 11
  · subst last
    rw [if_pos rfl]
    split
    · omega
    · next noLeap =>
        have notLast : day ≠ 365 := fun last => noLeap (leap last)
        omega
  · rw [if_neg last]
    clear length
    generalize (153 * month + 2) / 5 = front
    omega

end MarchDay

/-- Every day has a date that exists. -/
theorem Date.isValid_ofDays {days : Int} (kept : inRange (Date.ofDays days).year = true) :
    (Date.ofDays days).isValid = true := by
  obtain ⟨era, year, day, parts, dated⟩ := exists_marchDay days
  rw [dated] at kept ⊢
  simp only [Date.isValid, kept, Bool.and_eq_true, decide_eq_true_eq, true_and]
  exact ⟨one_le_day_ofMarch _ _, parts.day_le_monthLength⟩

/-- The years with four digits are those of the days from 0000-01-01 to 9999-12-31. -/
theorem Date.year_ofDays_fourDigits {days : Int} :
    0 ≤ (Date.ofDays days).year ∧ (Date.ofDays days).year ≤ 9999 ↔
      -719528 ≤ days ∧ days ≤ 2932896 := by
  obtain ⟨era, year, day, parts, dated⟩ := exists_marchDay days
  have months := parts.month
  obtain ⟨sum, inEra, inYear, -⟩ := parts
  have leaps : 24 * year - 75 ≤ 100 * (year / 4 - year / 100) ∧ year / 4 - year / 100 ≤ 96 := by
    omega
  have autumn : (5 * day + 2) / 153 < 10 ↔ day ≤ 305 := by omega
  have counted : days + 719468 = 146097 * era + 365 * year + (year / 4 - year / 100) + day := by
    rw [sum]
    ring
  rw [dated, Date.ofMarch, Date.year_ofMonth months]
  simp only [autumn]
  clear months autumn sum
  generalize year / 4 - year / 100 = leap at leaps counted
  have eras : era < 0 ∨ (0 ≤ era ∧ era ≤ 24) ∨ 24 < era := by omega
  obtain before | ⟨first, last⟩ | after := eras
  · split <;> constructor <;> omega
  · split <;> constructor <;> omega
  · split <;> constructor <;> omega

/-- The date of a day counts the day. -/
theorem Date.toDays_ofDays (days : Int) : (Date.ofDays days).toDays = days := by
  obtain ⟨era, year, day, parts, dated⟩ := exists_marchDay days
  rw [dated]
  exact parts.toDays_ofMarch

end LogPipe.Calendar
