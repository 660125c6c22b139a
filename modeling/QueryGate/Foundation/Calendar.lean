import Mathlib

/-! # The Gregorian calendar by day numbers

The proleptic Gregorian calendar. Day 0 is Monday, the first of January of year 1. A
kind cuts the days into units, numbered so that each begins where the one before it
ends; an instant counts microseconds from the beginning of day 0.
-/

namespace Foundation

/-! ## Years and months -/

/-- The days before the first of January of a year. -/
def daysBeforeYear (year : Int) : Int :=
  365 * (year - 1) + (year - 1) / 4 - (year - 1) / 100 + (year - 1) / 400

def isLeapYear (year : Int) : Bool :=
  year % 4 = 0 && (year % 100 ≠ 0 || year % 400 = 0)

/-- The days of a year before a month, from January as 1, with `extra` days in February. -/
def daysBeforeMonth (extra : Int) (month : Int) : Int :=
  if month ≤ 1 then 0
  else if month = 2 then 31
  else if month = 3 then 59 + extra
  else if month = 4 then 90 + extra
  else if month = 5 then 120 + extra
  else if month = 6 then 151 + extra
  else if month = 7 then 181 + extra
  else if month = 8 then 212 + extra
  else if month = 9 then 243 + extra
  else if month = 10 then 273 + extra
  else if month = 11 then 304 + extra
  else if month = 12 then 334 + extra
  else 365 + extra

/-- The month of a year in which so many days have passed. -/
def monthAfter (extra : Int) (passed : Int) : Int :=
  if passed < 31 then 1
  else if passed < 59 + extra then 2
  else if passed < 90 + extra then 3
  else if passed < 120 + extra then 4
  else if passed < 151 + extra then 5
  else if passed < 181 + extra then 6
  else if passed < 212 + extra then 7
  else if passed < 243 + extra then 8
  else if passed < 273 + extra then 9
  else if passed < 304 + extra then 10
  else if passed < 334 + extra then 11
  else 12

/-- The day February has more in a leap year. -/
def leapDay (year : Int) : Int :=
  if isLeapYear year then 1 else 0

/-- The day with this date. -/
def dayNumber (year month day : Int) : Int :=
  daysBeforeYear year + daysBeforeMonth (leapDay year) month + (day - 1)

/-- The year of a day: a guess from the mean length of a year, corrected by one. -/
def yearOf (day : Int) : Int :=
  let guess := 400 * day / 146097 + 1
  if day < daysBeforeYear guess then guess - 1
  else if daysBeforeYear (guess + 1) ≤ day then guess + 1
  else guess

/-- The month of a day. -/
def monthOf (day : Int) : Int :=
  monthAfter (leapDay (yearOf day)) (day - daysBeforeYear (yearOf day))

/-- The day of the month of a day. -/
def dayOf (day : Int) : Int :=
  day - dayNumber (yearOf day) (monthOf day) 1 + 1

theorem daysBeforeYear_succ (year : Int) :
    daysBeforeYear (year + 1) = daysBeforeYear year + 365 + leapDay year := by
  unfold daysBeforeYear leapDay isLeapYear
  by_cases fours : year % 4 = 0 <;> by_cases hundreds : year % 100 = 0 <;>
    by_cases eras : year % 400 = 0 <;> simp [fours, hundreds, eras] <;> omega

theorem leapDay_bounds (year : Int) : 0 ≤ leapDay year ∧ leapDay year ≤ 1 := by
  unfold leapDay
  split <;> omega

theorem daysBeforeYear_le_yearOf (day : Int) :
    daysBeforeYear (yearOf day) ≤ day ∧ day < daysBeforeYear (yearOf day + 1) := by
  unfold yearOf
  dsimp only
  split
  · unfold daysBeforeYear at *
    omega
  · split
    · unfold daysBeforeYear at *
      omega
    · unfold daysBeforeYear at *
      omega

/-- The months, one by one. -/
theorem month_cases {month : Int} (first : 1 ≤ month) (last : month ≤ 12) :
    month = 1 ∨ month = 2 ∨ month = 3 ∨ month = 4 ∨ month = 5 ∨ month = 6 ∨ month = 7 ∨
      month = 8 ∨ month = 9 ∨ month = 10 ∨ month = 11 ∨ month = 12 := by
  omega

/-- What holds of both branches of a case distinction holds of its value. -/
theorem ite_induction (holds : Int → Prop) {condition : Prop} {decided : Decidable condition}
    {first rest : Int} (now : condition → holds first) (later : ¬condition → holds rest) :
    holds (if condition then first else rest) := by
  split
  · exact now ‹_›
  · exact later ‹_›

theorem monthAfter_bounds (extra passed : Int) :
    1 ≤ monthAfter extra passed ∧ monthAfter extra passed ≤ 12 := by
  unfold monthAfter
  iterate 11
    refine ite_induction (fun month => 1 ≤ month ∧ month ≤ 12) (fun _ => by decide) fun _ => ?_
  decide

/-- The days passed lie between the first day of the month and that of the next. -/
theorem daysBeforeMonth_monthAfter {extra passed : Int} (positive : 0 ≤ passed)
    (bound : passed < 365 + extra) :
    daysBeforeMonth extra (monthAfter extra passed) ≤ passed ∧
      passed < daysBeforeMonth extra (monthAfter extra passed + 1) := by
  unfold monthAfter
  -- one month after another: the bounds already passed stay in the context
  iterate 11
    refine ite_induction (fun month => daysBeforeMonth extra month ≤ passed ∧
      passed < daysBeforeMonth extra (month + 1)) (fun early => ?_) fun later => ?_
    · simp only [daysBeforeMonth, Int.reduceLE, Int.reduceAdd, Int.reduceEq, ↓reduceIte]
      omega
  simp only [daysBeforeMonth, Int.reduceLE, Int.reduceAdd, Int.reduceEq, ↓reduceIte]
  omega

theorem daysBeforeMonth_lt {extra month : Int} (days : 0 ≤ extra) (first : 1 ≤ month)
    (last : month ≤ 12) : daysBeforeMonth extra month < daysBeforeMonth extra (month + 1) := by
  rcases month_cases first last with
    rfl | rfl | rfl | rfl | rfl | rfl | rfl | rfl | rfl | rfl | rfl | rfl
  all_goals
    simp only [daysBeforeMonth, Int.reduceLE, Int.reduceAdd, Int.reduceEq, ↓reduceIte]
    omega

theorem monthOf_bounds (day : Int) : 1 ≤ monthOf day ∧ monthOf day ≤ 12 :=
  monthAfter_bounds _ _

/-- A day lies between the first day of its month and that of the next. -/
theorem dayNumber_le_monthOf (day : Int) :
    dayNumber (yearOf day) (monthOf day) 1 ≤ day ∧
      day < dayNumber (yearOf day) (monthOf day + 1) 1 := by
  obtain ⟨begun, unfinished⟩ := daysBeforeYear_le_yearOf day
  rw [daysBeforeYear_succ] at unfinished
  have within : daysBeforeMonth (leapDay (yearOf day)) (monthOf day) ≤
        day - daysBeforeYear (yearOf day) ∧
      day - daysBeforeYear (yearOf day) <
        daysBeforeMonth (leapDay (yearOf day)) (monthOf day + 1) :=
    daysBeforeMonth_monthAfter (by omega) (by omega)
  unfold dayNumber
  omega

theorem dayNumber_january (year : Int) : dayNumber year 1 1 = daysBeforeYear year := by
  simp [dayNumber, daysBeforeMonth]

/-- The month after December is January of the next year. -/
theorem dayNumber_thirteen (year : Int) : dayNumber year 13 1 = dayNumber (year + 1) 1 1 := by
  rw [dayNumber_january, daysBeforeYear_succ]
  simp only [dayNumber, daysBeforeMonth, Int.reduceLE, Int.reduceEq, ↓reduceIte]
  omega

theorem dayNumber_lt_month {year month : Int} (first : 1 ≤ month) (last : month ≤ 12) :
    dayNumber year month 1 < dayNumber year (month + 1) 1 := by
  have later := daysBeforeMonth_lt (leapDay_bounds year).1 first last
  unfold dayNumber
  omega

/-! ## Units -/

inductive CalendarUnit where
  | day | week | month | quarter | year
  deriving DecidableEq, Repr

/-- The first day of a month counted from January of year 0. -/
def monthStart (index : Int) : Int :=
  dayNumber (index / 12) (index % 12 + 1) 1

/-- The month of a day counted from January of year 0. -/
def monthIndex (day : Int) : Int :=
  12 * yearOf day + (monthOf day - 1)

theorem monthStart_lt_succ (index : Int) : monthStart index < monthStart (index + 1) := by
  have later : dayNumber (index / 12) (index % 12 + 1) 1 <
      dayNumber (index / 12) (index % 12 + 1 + 1) 1 := dayNumber_lt_month (by omega) (by omega)
  unfold monthStart
  by_cases wraps : index % 12 = 11
  · have year : (index + 1) / 12 = index / 12 + 1 := by omega
    have month : (index + 1) % 12 + 1 = 1 := by omega
    have thirteen : index % 12 + 1 + 1 = 13 := by omega
    rw [year, month, ← dayNumber_thirteen, ← thirteen]
    exact later
  · have year : (index + 1) / 12 = index / 12 := by omega
    have month : (index + 1) % 12 + 1 = index % 12 + 1 + 1 := by omega
    rw [year, month]
    exact later

theorem monthStart_strictMono : StrictMono monthStart :=
  strictMono_int_of_lt_succ monthStart_lt_succ

theorem monthIndex_year (day : Int) : monthIndex day / 12 = yearOf day := by
  have bounds := monthOf_bounds day
  unfold monthIndex
  omega

theorem monthIndex_month (day : Int) : monthIndex day % 12 + 1 = monthOf day := by
  have bounds := monthOf_bounds day
  unfold monthIndex
  omega

theorem monthStart_monthIndex (day : Int) :
    monthStart (monthIndex day) = dayNumber (yearOf day) (monthOf day) 1 := by
  rw [monthStart, monthIndex_year, monthIndex_month]

theorem monthStart_le_monthIndex (day : Int) :
    monthStart (monthIndex day) ≤ day ∧ day < monthStart (monthIndex day + 1) := by
  obtain ⟨begun, unfinished⟩ := dayNumber_le_monthOf day
  have year := monthIndex_year day
  have month := monthIndex_month day
  refine ⟨monthStart_monthIndex day ▸ begun, ?_⟩
  by_cases wraps : monthOf day = 12
  · have nextYear : (monthIndex day + 1) / 12 = yearOf day + 1 := by omega
    have january : (monthIndex day + 1) % 12 + 1 = 1 := by omega
    rw [monthStart, nextYear, january, ← dayNumber_thirteen]
    rw [wraps] at unfinished
    exact unfinished
  · have sameYear : (monthIndex day + 1) / 12 = yearOf day := by omega
    have next : (monthIndex day + 1) % 12 + 1 = monthOf day + 1 := by omega
    rw [monthStart, sameYear, next]
    exact unfinished

namespace CalendarUnit

/-- The months in a unit of months. -/
def months : CalendarUnit → Int
  | .quarter => 3
  | .year => 12
  | _ => 1

/-- The first day of a unit. Weeks begin on Monday. -/
def unitStart : CalendarUnit → Int → Int
  | .day, unit => unit
  | .week, unit => 7 * unit
  | kind, unit => monthStart (kind.months * unit)

/-- The unit of a day. -/
def unitOf : CalendarUnit → Int → Int
  | .day, number => number
  | .week, number => number / 7
  | kind, number => monthIndex number / kind.months

/-- Each unit ends where the next begins. -/
theorem unitStart_lt_succ (kind : CalendarUnit) (unit : Int) :
    kind.unitStart unit < kind.unitStart (unit + 1) := by
  cases kind with
  | day => exact Int.lt_succ unit
  | week =>
      change 7 * unit < 7 * (unit + 1)
      omega
  | month | quarter | year =>
      apply monthStart_strictMono
      simp only [months]
      omega

theorem unitStart_strictMono (kind : CalendarUnit) :
    StrictMono kind.unitStart :=
  strictMono_int_of_lt_succ kind.unitStart_lt_succ

/-- A day lies in its unit. -/
theorem unitStart_le_unitOf (kind : CalendarUnit) (number : Int) :
    kind.unitStart (kind.unitOf number) ≤ number ∧
      number < kind.unitStart (kind.unitOf number + 1) := by
  cases kind with
  | day => exact ⟨le_rfl, Int.lt_succ number⟩
  | week =>
      change 7 * (number / 7) ≤ number ∧ number < 7 * (number / 7 + 1)
      omega
  | month | quarter | year =>
      obtain ⟨begun, unfinished⟩ := monthStart_le_monthIndex number
      refine ⟨le_trans (monthStart_strictMono.monotone ?_) begun,
        lt_of_lt_of_le unfinished (monthStart_strictMono.monotone ?_)⟩
      · simp only [months, unitOf]
        omega
      · simp only [months, unitOf]
        omega

end CalendarUnit

/-! ## Instants -/

/-- The microseconds of a day. -/
def dayLength : Int := 86400000000

/-- The day of an instant. -/
def dayOfInstant (instant : Int) : Int :=
  instant / dayLength

/-- The first instant of a day. -/
def midnight (day : Int) : Int :=
  dayLength * day

theorem midnight_le_iff {day instant : Int} :
    midnight day ≤ instant ↔ day ≤ dayOfInstant instant := by
  unfold midnight dayOfInstant dayLength
  omega

/-- The instant is the first of the calendar unit that contains another. -/
def FirstInstant (kind : CalendarUnit) (instant first : Int) : Prop :=
  ∃ unit, first = midnight (kind.unitStart unit) ∧ first ≤ instant ∧
    instant < midnight (kind.unitStart (unit + 1))

/-- The first instant of the unit that contains this one. -/
def truncate (kind : CalendarUnit) (instant : Int) : Int :=
  midnight (kind.unitStart (kind.unitOf (dayOfInstant instant)))

/-- The first instant of the containing unit is the truncation, and no other. -/
theorem firstInstant_iff {kind : CalendarUnit} {instant first : Int} :
    FirstInstant kind instant first ↔ first = truncate kind instant := by
  obtain ⟨begun, unfinished⟩ := kind.unitStart_le_unitOf (dayOfInstant instant)
  constructor
  · rintro ⟨unit, rfl, early, late⟩
    have low := midnight_le_iff.mp early
    have high : dayOfInstant instant < kind.unitStart (unit + 1) :=
      lt_of_not_ge fun above => absurd (midnight_le_iff.mpr above) (not_le.mpr late)
    have atLeast : unit < kind.unitOf (dayOfInstant instant) + 1 :=
      kind.unitStart_strictMono.lt_iff_lt.mp (lt_of_le_of_lt low unfinished)
    have atMost : kind.unitOf (dayOfInstant instant) < unit + 1 :=
      kind.unitStart_strictMono.lt_iff_lt.mp (lt_of_le_of_lt begun high)
    have same : unit = kind.unitOf (dayOfInstant instant) := by omega
    rw [same]
    rfl
  · rintro rfl
    refine ⟨_, rfl, midnight_le_iff.mpr begun, ?_⟩
    exact lt_of_not_ge fun above => absurd (midnight_le_iff.mp above) (not_le.mpr unfinished)

/-- The first day of the month that contains an instant. -/
theorem truncate_month (instant : Int) :
    truncate .month instant =
      midnight (dayNumber (yearOf (dayOfInstant instant)) (monthOf (dayOfInstant instant)) 1) := by
  rw [← monthStart_monthIndex]
  simp [truncate, CalendarUnit.unitStart, CalendarUnit.unitOf, CalendarUnit.months]

/-- The first day of the quarter that contains an instant. -/
theorem truncate_quarter (instant : Int) :
    truncate .quarter instant =
      midnight (dayNumber (yearOf (dayOfInstant instant))
        (3 * ((monthOf (dayOfInstant instant) - 1) / 3) + 1) 1) := by
  have bounds := monthOf_bounds (dayOfInstant instant)
  have year : 3 * (monthIndex (dayOfInstant instant) / 3) / 12 =
      yearOf (dayOfInstant instant) := by
    unfold monthIndex
    omega
  have month : 3 * (monthIndex (dayOfInstant instant) / 3) % 12 + 1 =
      3 * ((monthOf (dayOfInstant instant) - 1) / 3) + 1 := by
    unfold monthIndex
    omega
  change midnight (monthStart (3 * (monthIndex (dayOfInstant instant) / 3))) = _
  rw [monthStart, year, month]

/-- The first day of the year that contains an instant. -/
theorem truncate_year (instant : Int) :
    truncate .year instant = midnight (dayNumber (yearOf (dayOfInstant instant)) 1 1) := by
  have year : 12 * (monthIndex (dayOfInstant instant) / 12) / 12 =
      yearOf (dayOfInstant instant) := by
    rw [monthIndex_year]
    omega
  have month : 12 * (monthIndex (dayOfInstant instant) / 12) % 12 + 1 = 1 := by omega
  change midnight (monthStart (12 * (monthIndex (dayOfInstant instant) / 12))) = _
  rw [monthStart, year, month]

theorem truncate_le (kind : CalendarUnit) (instant : Int) :
    truncate kind instant ≤ instant :=
  midnight_le_iff.mpr (kind.unitStart_le_unitOf _).1

end Foundation
