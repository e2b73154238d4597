import Mathlib.Tactic.Linarith
import Mathlib.Order.Fin.Basic

/-!
# The proleptic Gregorian calendar

Dates over all integer years, with the day after a date, the day before it, and the number of a
date, which counts days from January 1, 1970. Counting goes through the lengths of the years and
months one by one; a closed form for the days before a year follows from it.
-/

namespace Quickstep.Lib

/-- A leap year. -/
def IsLeap (year : Int) : Prop := year % 4 = 0 ∧ (year % 100 ≠ 0 ∨ year % 400 = 0)

instance (year : Int) : Decidable (IsLeap year) := inferInstanceAs (Decidable (_ ∧ _))

def daysInYear (year : Int) : Int := if IsLeap year then 366 else 365

/-- The length of a month; months are counted from zero. -/
def daysInMonth (year : Int) : Nat → Int
  | 1 => if IsLeap year then 29 else 28
  | 3 | 5 | 8 | 10 => 30
  | _ => 31

/-- The days of the months in front of a month. -/
def daysBeforeMonth (year : Int) : Nat → Int
  | 0 => 0
  | month + 1 => daysBeforeMonth year month + daysInMonth year month

/-- The days of `count` years from `first` on. -/
def daysOfYears (first : Int) : Nat → Int
  | 0 => 0
  | count + 1 => daysOfYears first count + daysInYear (first + count)

/-- The days from the beginning of 1970 to the beginning of a year. -/
def daysBeforeYear (year : Int) : Int :=
  if 1970 ≤ year then daysOfYears 1970 (year - 1970).toNat
  else -daysOfYears year (1970 - year).toNat

/-- A date of the calendar. -/
@[ext] structure Date where
  year : Int
  month : Nat
  day : Int
  month_lt : month < 12
  one_le_day : 1 ≤ day
  day_le : day ≤ daysInMonth year month

namespace Date

/-- The number of days from January 1, 1970 to a date. -/
def dayNumber (date : Date) : Int :=
  daysBeforeYear date.year + daysBeforeMonth date.year date.month + (date.day - 1)

end Date

/-! ## Months and years -/

section Lengths

variable {year : Int} {month : Nat}

theorem daysInMonth_bounds : 28 ≤ daysInMonth year month ∧ daysInMonth year month ≤ 31 := by
  unfold daysInMonth
  split
  · split <;> omega
  all_goals omega

/-- The months of a year make up the year. -/
theorem daysBeforeMonth_twelve (year : Int) : daysBeforeMonth year 12 = daysInYear year := by
  simp only [daysBeforeMonth, daysInMonth, daysInYear]
  split <;> rfl

/-- A month lies in front of the rest of the year. -/
theorem daysBeforeMonth_add_le {later : Nat} (order : month < later) :
    daysBeforeMonth year month + daysInMonth year month ≤ daysBeforeMonth year later := by
  induction later with
  | zero => omega
  | succ later ih =>
    rw [daysBeforeMonth]
    by_cases same : month = later
    · rw [same]
    · have := ih (by omega)
      have := @daysInMonth_bounds year later
      omega

theorem daysBeforeMonth_nonneg : 0 ≤ daysBeforeMonth year month := by
  induction month with
  | zero => exact Int.le_refl 0
  | succ month ih =>
    have := @daysInMonth_bounds year month
    rw [daysBeforeMonth]
    omega

/-- The leap years in front of a year, counted from a fixed one. -/
def leapsBefore (year : Int) : Int := (year - 1) / 4 - (year - 1) / 100 + (year - 1) / 400

theorem leapsBefore_succ (year : Int) :
    leapsBefore (year + 1) = leapsBefore year + if IsLeap year then 1 else 0 := by
  unfold leapsBefore
  by_cases leap : IsLeap year
  · rw [if_pos leap]
    unfold IsLeap at leap
    omega
  · rw [if_neg leap]
    unfold IsLeap at leap
    omega

theorem daysInYear_eq (year : Int) : daysInYear year = 365 + if IsLeap year then 1 else 0 := by
  rw [daysInYear]
  split <;> rfl

theorem daysOfYears_eq (first : Int) (count : Nat) :
    daysOfYears first count = 365 * count + (leapsBefore (first + count) - leapsBefore first) := by
  induction count with
  | zero => simp [daysOfYears]
  | succ count ih =>
    have next := leapsBefore_succ (first + count)
    have place : first + ((count + 1 : Nat) : Int) = first + count + 1 := by omega
    rw [daysOfYears, ih, daysInYear_eq, place, next]
    omega

/-- **The days before a year**, in closed form. -/
theorem daysBeforeYear_eq (year : Int) :
    daysBeforeYear year = 365 * (year - 1970) + leapsBefore year - 477 := by
  have epoch : leapsBefore 1970 = 477 := rfl
  rw [daysBeforeYear, daysOfYears_eq, daysOfYears_eq, epoch]
  split
  · rw [show (1970 : Int) + ((year - 1970).toNat : Int) = year by omega]
    omega
  · rw [show year + ((1970 - year).toNat : Int) = 1970 by omega, epoch]
    omega

theorem daysBeforeYear_succ (year : Int) :
    daysBeforeYear (year + 1) = daysBeforeYear year + daysInYear year := by
  rw [daysBeforeYear_eq, daysBeforeYear_eq, leapsBefore_succ, daysInYear_eq]
  omega

theorem daysInYear_bounds (year : Int) : 365 ≤ daysInYear year ∧ daysInYear year ≤ 366 := by
  rw [daysInYear]
  split <;> omega

/-- A year lies in front of the later ones. -/
theorem daysBeforeYear_add_le {later : Int} (order : year < later) :
    daysBeforeYear year + daysInYear year ≤ daysBeforeYear later := by
  obtain ⟨gap, rfl⟩ := Int.le.dest order
  induction gap with
  | zero =>
    rw [Int.natCast_zero, Int.add_zero, daysBeforeYear_succ]
  | succ gap ih =>
    have := ih (by omega)
    have := daysInYear_bounds (year + 1 + gap)
    rw [Int.natCast_succ, ← Int.add_assoc, daysBeforeYear_succ]
    omega

end Lengths

/-! ## Dates in order -/

namespace Date

/-- The order of dates: by year, then by month, then by day. -/
def Before (date later : Date) : Prop :=
  date.year < later.year ∨ date.year = later.year ∧
    (date.month < later.month ∨ date.month = later.month ∧ date.day < later.day)

theorem dayOfYear_lt (date : Date) :
    daysBeforeMonth date.year date.month + (date.day - 1) < daysInYear date.year := by
  have := @daysBeforeMonth_add_le date.year date.month 12 date.month_lt
  have := daysBeforeMonth_twelve date.year
  have := date.day_le
  omega

/-- **Later dates have larger numbers.** -/
theorem dayNumber_lt {date later : Date} (order : date.Before later) :
    date.dayNumber < later.dayNumber := by
  have first := date.dayOfYear_lt
  have second := @daysBeforeMonth_nonneg later.year later.month
  have dayLe := date.day_le
  have := later.one_le_day
  unfold dayNumber
  rcases order with years | ⟨sameYear, months | ⟨sameMonth, days⟩⟩
  · have := daysBeforeYear_add_le years
    omega
  · have := @daysBeforeMonth_add_le later.year date.month later.month months
    rw [sameYear] at dayLe ⊢
    omega
  · rw [sameYear, sameMonth]
    omega

theorem before_or (date other : Date) : date.Before other ∨ date = other ∨ other.Before date := by
  by_cases same : date = other
  · exact .inr (.inl same)
  · have differ : ¬ (date.year = other.year ∧ date.month = other.month ∧ date.day = other.day) :=
      fun fields => same (Date.ext fields.1 fields.2.1 fields.2.2)
    unfold Before
    omega

theorem dayNumber_injective {date other : Date} (same : date.dayNumber = other.dayNumber) :
    date = other := by
  rcases date.before_or other with before | equal | after
  · have := dayNumber_lt before
    omega
  · exact equal
  · have := dayNumber_lt after
    omega

/-! ## The next and the previous date -/

/-- The first day of a month. -/
def firstOf (year : Int) (month : Nat) (month_lt : month < 12) : Date where
  year := year
  month := month
  day := 1
  month_lt := month_lt
  one_le_day := Int.le_refl 1
  day_le := Int.le_trans (by omega) daysInMonth_bounds.1

/-- The last day of a month. -/
def lastOf (year : Int) (month : Nat) (month_lt : month < 12) : Date where
  year := year
  month := month
  day := daysInMonth year month
  month_lt := month_lt
  one_le_day := Int.le_trans (by omega) daysInMonth_bounds.1
  day_le := Int.le_refl _

/-- The day after a date. -/
def next (date : Date) : Date :=
  if day : date.day + 1 ≤ daysInMonth date.year date.month then
    { date with day := date.day + 1, one_le_day := Int.le_trans date.one_le_day (by omega), day_le := day }
  else if month : date.month + 1 < 12 then firstOf date.year (date.month + 1) month
  else firstOf (date.year + 1) 0 (by omega)

/-- The day before a date. -/
def previous (date : Date) : Date :=
  if day : 1 ≤ date.day - 1 then
    { date with day := date.day - 1, one_le_day := day, day_le := Int.le_trans (by omega) date.day_le }
  else if 0 < date.month then
    lastOf date.year (date.month - 1) (Nat.lt_of_le_of_lt (by omega) date.month_lt)
  else lastOf (date.year - 1) 11 (by omega)

/-- **The next date has the next number.** -/
theorem dayNumber_next (date : Date) : date.next.dayNumber = date.dayNumber + 1 := by
  have dayLe := date.day_le
  unfold next
  split
  · simp only [dayNumber]
    omega
  · split
    · simp only [dayNumber, firstOf, daysBeforeMonth]
      omega
    · have last : date.month + 1 = 12 := by have := date.month_lt; omega
      have whole := daysBeforeMonth_twelve date.year
      rw [← last, daysBeforeMonth] at whole
      simp only [dayNumber, firstOf, daysBeforeMonth, daysBeforeYear_succ]
      omega

theorem dayNumber_previous (date : Date) : date.previous.dayNumber = date.dayNumber - 1 := by
  have oneLe := date.one_le_day
  unfold previous
  split
  · simp only [dayNumber]
    omega
  · split
    · have step : daysBeforeMonth date.year date.month =
          daysBeforeMonth date.year (date.month - 1) + daysInMonth date.year (date.month - 1) := by
        rw [← daysBeforeMonth]
        congr 1
        omega
      simp only [dayNumber, lastOf, step]
      omega
    · have whole : daysBeforeMonth (date.year - 1) 11 + daysInMonth (date.year - 1) 11 =
          daysInYear (date.year - 1) := daysBeforeMonth_twelve _
      have years := daysBeforeYear_succ (date.year - 1)
      rw [Int.sub_add_cancel] at years
      have first : date.month = 0 := by omega
      have none : daysBeforeMonth date.year 0 = 0 := rfl
      simp only [dayNumber, lastOf, first, years, none]
      omega

/-! ## Dates by number -/

/-- January 1, 1970. -/
def epoch : Date := firstOf 1970 0 (by omega)

/-- The date a number of days from the epoch, reached day by day. -/
def ofDayNumber : Int → Date
  | .ofNat count => next^[count] epoch
  | .negSucc count => previous^[count + 1] epoch

theorem dayNumber_ofDayNumber (number : Int) : (ofDayNumber number).dayNumber = number := by
  cases number with
  | ofNat count =>
    simp only [ofDayNumber]
    induction count with
    | zero => rfl
    | succ count ih =>
      rw [Function.iterate_succ_apply', dayNumber_next, ih]
      rfl
  | negSucc count =>
    simp only [ofDayNumber]
    have back (steps : Nat) : (previous^[steps] epoch).dayNumber = -steps := by
      induction steps with
      | zero => rfl
      | succ steps ih =>
        rw [Function.iterate_succ_apply', dayNumber_previous, ih]
        omega
    rw [back, Int.negSucc_eq]
    rfl

theorem ofDayNumber_dayNumber (date : Date) : ofDayNumber date.dayNumber = date :=
  dayNumber_injective (dayNumber_ofDayNumber _)

end Date

/-! ## Counting months -/

/-- The days from the beginning of 1970 to the beginning of a month. Months are numbered through,
January of year zero being the first. -/
def monthStart (index : Int) : Int :=
  daysBeforeYear (index / 12) + daysBeforeMonth (index / 12) (index % 12).toNat

/-- The length of a month by its number. -/
def monthLength (index : Int) : Int := daysInMonth (index / 12) (index % 12).toNat

theorem monthStart_succ (index : Int) :
    monthStart (index + 1) = monthStart index + monthLength index := by
  unfold monthStart monthLength
  by_cases last : index % 12 = 11
  · have whole : daysBeforeMonth (index / 12) 11 + daysInMonth (index / 12) 11 =
        daysInYear (index / 12) := daysBeforeMonth_twelve _
    have years := daysBeforeYear_succ (index / 12)
    have none (year : Int) : daysBeforeMonth year 0 = 0 := rfl
    rw [show (index + 1) / 12 = index / 12 + 1 by omega, show ((index + 1) % 12).toNat = 0 by omega,
      show (index % 12).toNat = 11 by omega, none]
    omega
  · rw [show (index + 1) / 12 = index / 12 by omega,
      show ((index + 1) % 12).toNat = (index % 12).toNat + 1 by omega, daysBeforeMonth]
    omega

namespace Date

/-- The number of the month of a date. -/
def monthIndex (date : Date) : Int := 12 * date.year + date.month

theorem monthIndex_div (date : Date) : date.monthIndex / 12 = date.year := by
  have := date.month_lt
  unfold monthIndex
  omega

theorem monthIndex_mod (date : Date) : (date.monthIndex % 12).toNat = date.month := by
  have := date.month_lt
  unfold monthIndex
  omega

theorem dayNumber_eq_monthStart (date : Date) :
    date.dayNumber = monthStart date.monthIndex + (date.day - 1) := by
  rw [monthStart, monthIndex_div, monthIndex_mod]
  rfl

/-- The date a number of months later, in the last day of the month if it has no such day. -/
def addMonths (date : Date) (count : Int) : Date where
  year := (date.monthIndex + count) / 12
  month := ((date.monthIndex + count) % 12).toNat
  day := min date.day (monthLength (date.monthIndex + count))
  month_lt := by omega
  one_le_day := Int.le_min.mpr ⟨date.one_le_day, Int.le_trans (by omega) daysInMonth_bounds.1⟩
  day_le := Int.min_le_right _ _

theorem monthIndex_addMonths (date : Date) (count : Int) :
    (date.addMonths count).monthIndex = date.monthIndex + count := by
  simp only [monthIndex, addMonths]
  omega

theorem dayNumber_addMonths (date : Date) (count : Int) :
    (date.addMonths count).dayNumber = monthStart (date.monthIndex + count) +
      (min date.day (monthLength (date.monthIndex + count)) - 1) := by
  rw [dayNumber_eq_monthStart, monthIndex_addMonths]
  rfl

/-- The next date lies in the same month, or is the first day of the next one. -/
theorem next_cases (date : Date) :
    (date.day < daysInMonth date.year date.month ∧ date.next.monthIndex = date.monthIndex ∧
      date.next.day = date.day + 1) ∨
    (date.day = daysInMonth date.year date.month ∧ date.next.monthIndex = date.monthIndex + 1 ∧
      date.next.day = 1) := by
  have dayLe := date.day_le
  have := date.month_lt
  unfold next
  split
  · rename_i inside
    exact .inl ⟨by omega, rfl, rfl⟩
  · split
    · refine .inr ⟨by omega, ?_, rfl⟩
      simp only [monthIndex, firstOf]
      omega
    · refine .inr ⟨by omega, ?_, rfl⟩
      simp only [monthIndex, firstOf]
      omega

/-- **Moving by months commutes with the next day** exactly if the day is not the last one of its
month when it is not clamped to the last one of the other. -/
theorem dayNumber_next_addMonths_iff (date : Date) (count : Int) :
    (date.next.addMonths count).dayNumber = (date.addMonths count).dayNumber + 1 ↔
      (date.day < daysInMonth date.year date.month ↔
        date.day < monthLength (date.monthIndex + count)) := by
  have dayLe := date.day_le
  have oneLe := date.one_le_day
  have length : 28 ≤ monthLength (date.monthIndex + count) := daysInMonth_bounds.1
  rw [dayNumber_addMonths, dayNumber_addMonths]
  rcases date.next_cases with ⟨inside, index, day⟩ | ⟨last, index, day⟩
  · rw [index, day]
    omega
  · have nextLength : 28 ≤ monthLength (date.monthIndex + count + 1) := daysInMonth_bounds.1
    rw [index, day, Int.add_right_comm, monthStart_succ]
    omega

/-! ## The range of the years -/

/-- The years of the dates of a bounded number. -/
theorem year_bounds {date : Date} {bound : Int} (lower : -365 * bound ≤ date.dayNumber)
    (upper : date.dayNumber ≤ 365 * bound) :
    1969 - bound ≤ date.year ∧ date.year ≤ 1971 + bound := by
  have first := @daysBeforeMonth_nonneg date.year date.month
  have last := date.dayOfYear_lt
  have length := daysInYear_bounds date.year
  have oneLe := date.one_le_day
  rw [dayNumber, daysBeforeYear_eq] at lower upper
  unfold leapsBefore at lower upper
  omega

end Date

end Quickstep.Lib
