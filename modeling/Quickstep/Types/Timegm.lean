import Mathlib.Tactic.IntervalCases
import Quickstep.Lib.Calendar
import Quickstep.Lib.CheckedInt
import Quickstep.Types.Literals

/-!
# timegm

The conversion of a broken-down time to seconds in `types/port/timegm.cpp`, which
`quickstep::timegm` always uses. `std::time_t` has 64 bits.
-/

namespace Quickstep.Types
open Quickstep.Lib

section Constants

def kSecondsInMinute : Int := 60
def kMinutesInHour : Int := 60
def kHoursInDay : Int := 24
def kDaysInYear : Int := 365
def kSecondsInHour : Int := kSecondsInMinute * kMinutesInHour
def kSecondsInDay : Int := kSecondsInHour * kHoursInDay
def kSecondsInYear : Int := kDaysInYear * kSecondsInDay
def kEpochYearBase : Int := 1970
def kTMYearBase : Int := 1900

def kDaysUptoMonth : List Int := [
  0,
  31,
  31 + 28,
  31 + 28 + 31,
  31 + 28 + 31 + 30,
  31 + 28 + 31 + 30 + 31,
  31 + 28 + 31 + 30 + 31 + 30,
  31 + 28 + 31 + 30 + 31 + 30 + 31,
  31 + 28 + 31 + 30 + 31 + 30 + 31 + 31,
  31 + 28 + 31 + 30 + 31 + 30 + 31 + 31 + 30,
  31 + 28 + 31 + 30 + 31 + 30 + 31 + 31 + 30 + 31,
  31 + 28 + 31 + 30 + 31 + 30 + 31 + 31 + 30 + 31 + 30]

def kDaysUptoMonthLeapYear : List Int := [
  0,
  31,
  31 + 29,
  31 + 29 + 31,
  31 + 29 + 31 + 30,
  31 + 29 + 31 + 30 + 31,
  31 + 29 + 31 + 30 + 31 + 30,
  31 + 29 + 31 + 30 + 31 + 30 + 31,
  31 + 29 + 31 + 30 + 31 + 30 + 31 + 31,
  31 + 29 + 31 + 30 + 31 + 30 + 31 + 31 + 30,
  31 + 29 + 31 + 30 + 31 + 30 + 31 + 31 + 30 + 31,
  31 + 29 + 31 + 30 + 31 + 30 + 31 + 31 + 30 + 31 + 30]

def kPosBase4 : Int := (kEpochYearBase + 3).tmod 4
def kPosBase100 : Int := (kEpochYearBase + 99).tmod 100
def kPosBase400 : Int := (kEpochYearBase + 399).tmod 400
def kNegBase4 : Int := 4 - kEpochYearBase.tmod 4
def kNegBase100 : Int := 100 - kEpochYearBase.tmod 100
def kNegBase400 : Int := 400 - kEpochYearBase.tmod 400

end Constants

/-- `IsLeapYear`, of a year counted from 1900. -/
def isLeapYear (year : Int) : Exec Bool := do
  if BitVec.ofInt 64 year &&& 3#64 ≠ 0#64 then return false
  let full ← int64 (year + kTMYearBase)
  return !(full.tmod 100 == 0 && full.tmod 400 != 0)

/-- `NumLeapDays`, of a year counted from 1970. -/
def numLeapDays (year : Int) : Exec Int := do
  if 0 ≤ year then
    let by4 := (← int64 (year + kPosBase4)).tdiv 4
    let by100 := (← int64 (year + kPosBase100)).tdiv 100
    let by400 := (← int64 (year + kPosBase400)).tdiv 400
    int64 ((← int64 (by4 - by100)) + by400)
  else
    let by4 := (← int64 (year - kNegBase4)).tdiv 4
    let by100 := (← int64 (year - kNegBase100)).tdiv 100
    let by400 := (← int64 (year - kNegBase400)).tdiv 400
    int64 ((← int64 (by4 - by100)) + by400)

/-- The entry of the table for the kind of year. -/
def daysUptoMonth (tm : Tm) : Exec Int := do
  if ← isLeapYear tm.tmYear.toInt then tableAt kDaysUptoMonthLeapYear tm.tmMon.toInt
  else tableAt kDaysUptoMonth tm.tmMon.toInt

/-- `timegmCustom`. It does not check its argument: a month outside the table is undefined
behaviour. -/
def timegmCustom (tm : Tm) : Exec Int := do
  let yearsSinceEpoch ← int64 ((← int64 (tm.tmYear.toInt + kTMYearBase)) - kEpochYearBase)
  let leapDays ← numLeapDays yearsSinceEpoch
  let time ← int64
    ((← int64 (yearsSinceEpoch * kSecondsInYear)) + (← int64 (leapDays * kSecondsInDay)))
  let time ← int64 (time + (← int64 ((← daysUptoMonth tm) * kSecondsInDay)))
  let days ← int64 ((← int32 (tm.tmMday.toInt - 1)) * kSecondsInDay)
  let hours ← int64 (tm.tmHour.toInt * kSecondsInHour)
  let minutes ← int64 (tm.tmMin.toInt * kSecondsInMinute)
  int64 (time + (← int64 ((← int64 ((← int64 (days + hours)) + minutes)) + tm.tmSec.toInt)))

/-! ## What a broken-down time stands for -/

/-- A broken-down time whose fields name a date and a time of that day. -/
structure Tm.Valid (tm : Tm) : Prop where
  mon_nonneg : 0 ≤ tm.tmMon.toInt
  mon_lt : tm.tmMon.toInt < 12
  one_le_mday : 1 ≤ tm.tmMday.toInt
  mday_le : tm.tmMday.toInt ≤ daysInMonth (tm.tmYear.toInt + 1900) tm.tmMon.toInt.toNat
  hour_nonneg : 0 ≤ tm.tmHour.toInt
  hour_lt : tm.tmHour.toInt < 24
  min_nonneg : 0 ≤ tm.tmMin.toInt
  min_lt : tm.tmMin.toInt < 60
  sec_nonneg : 0 ≤ tm.tmSec.toInt
  sec_lt : tm.tmSec.toInt < 60

/-- The date of a broken-down time. -/
def Tm.Valid.date {tm : Tm} (valid : tm.Valid) : Date where
  year := tm.tmYear.toInt + 1900
  month := tm.tmMon.toInt.toNat
  day := tm.tmMday.toInt
  month_lt := by
    have := valid.mon_lt
    omega
  one_le_day := valid.one_le_mday
  day_le := valid.mday_le

/-- The seconds since midnight. -/
def Tm.secondOfDay (tm : Tm) : Int :=
  3600 * tm.tmHour.toInt + 60 * tm.tmMin.toInt + tm.tmSec.toInt

/-- The seconds since the beginning of 1970, by the calendar. -/
def Tm.Valid.seconds {tm : Tm} (valid : tm.Valid) : Int :=
  86400 * valid.date.dayNumber + tm.secondOfDay

/-! ## The parts -/

theorem inSigned_toInt (value : BitVec 32) : InSigned 32 value.toInt :=
  ⟨BitVec.le_toInt value, BitVec.toInt_lt⟩

theorem isLeapYear_eq {year : Int} (bounds : InSigned 32 year) :
    isLeapYear year = .ok (decide (IsLeap (year + 1900))) := by
  rw [inSigned_32] at bounds
  have low := ofInt_and_three year
  have hundreds : (year + 1900).tmod 100 = 0 ↔ (year + 1900) % 100 = 0 := by
    rw [← Int.dvd_iff_tmod_eq_zero, Int.dvd_iff_emod_eq_zero]
  have fourHundreds : (year + 1900).tmod 400 = 0 ↔ (year + 1900) % 400 = 0 := by
    rw [← Int.dvd_iff_tmod_eq_zero, Int.dvd_iff_emod_eq_zero]
  unfold isLeapYear kTMYearBase
  split
  · rename_i odd
    have notFourth : ¬ year % 4 = 0 := fun fourth => odd (low.mpr fourth)
    have common : ¬ IsLeap (year + 1900) := by
      unfold IsLeap
      omega
    rw [decide_eq_false common]
    rfl
  · rename_i even
    have fourth : year % 4 = 0 := low.mp (not_not.mp even)
    rw [int64_ok (by omega) (by omega), Exec.ok_bind]
    refine congrArg Except.ok (Bool.eq_iff_iff.mpr ?_)
    simp only [Bool.not_eq_true', Bool.and_eq_false_imp, beq_iff_eq, bne_eq_false_iff_eq,
      decide_eq_true_eq, hundreds, fourHundreds]
    unfold IsLeap
    omega

/-- The rounding of the two cases makes both of them count the same leap days. -/
theorem numLeapDays_eq {year : Int} (lower : -2147483718 ≤ year) (upper : year < 2147483578) :
    numLeapDays year = .ok (leapsBefore (year + 1970) - 477) := by
  unfold numLeapDays leapsBefore
  split
  · rename_i nonneg
    have base : kPosBase4 = 1 ∧ kPosBase100 = 69 ∧ kPosBase400 = 369 := by decide
    rw [base.1, base.2.1, base.2.2]
    simp only [@int64_ok (year + 1) (by omega) (by omega),
      @int64_ok (year + 69) (by omega) (by omega),
      @int64_ok (year + 369) (by omega) (by omega), Exec.ok_bind,
      @Int.tdiv_eq_ediv_of_nonneg (year + 1) 4 (by omega),
      @Int.tdiv_eq_ediv_of_nonneg (year + 69) 100 (by omega),
      @Int.tdiv_eq_ediv_of_nonneg (year + 369) 400 (by omega)]
    rw [int64_ok (by omega) (by omega), Exec.ok_bind, int64_ok (by omega) (by omega)]
    exact congrArg Except.ok (by omega)
  · rename_i negative
    have base : kNegBase4 = 2 ∧ kNegBase100 = 30 ∧ kNegBase400 = 30 := by decide
    rw [base.1, base.2.1, base.2.2]
    simp only [@int64_ok (year - 2) (by omega) (by omega),
      @int64_ok (year - 30) (by omega) (by omega), Exec.ok_bind,
      @tdiv_of_nonpos (year - 2) (by omega), @tdiv_of_nonpos (year - 30) (by omega)]
    rw [int64_ok (by omega) (by omega), Exec.ok_bind, int64_ok (by omega) (by omega)]
    exact congrArg Except.ok (by omega)

theorem kDaysUptoMonth_eq {year : Int} (common : ¬ IsLeap year) {month : Nat} (inside : month < 12) :
    readAt kDaysUptoMonth month = .ok (daysBeforeMonth year month) := by
  interval_cases month <;> simp [readAt, kDaysUptoMonth, daysBeforeMonth, daysInMonth, common]

theorem kDaysUptoMonthLeapYear_eq {year : Int} (leap : IsLeap year) {month : Nat}
    (inside : month < 12) :
    readAt kDaysUptoMonthLeapYear month = .ok (daysBeforeMonth year month) := by
  interval_cases month <;> simp [readAt, kDaysUptoMonthLeapYear, daysBeforeMonth, daysInMonth, leap]

theorem daysUptoMonth_eq {tm : Tm} (nonneg : 0 ≤ tm.tmMon.toInt) (inside : tm.tmMon.toInt < 12) :
    daysUptoMonth tm = .ok (daysBeforeMonth (tm.tmYear.toInt + 1900) tm.tmMon.toInt.toNat) := by
  unfold daysUptoMonth
  rw [isLeapYear_eq (inSigned_toInt _), Exec.ok_bind]
  unfold tableAt
  rw [if_pos nonneg, if_pos nonneg]
  split
  · rename_i leap
    exact kDaysUptoMonthLeapYear_eq (of_decide_eq_true leap) (by omega)
  · rename_i common
    exact kDaysUptoMonth_eq (fun leap => common (decide_eq_true leap)) (by omega)

/-! ## The whole conversion -/

theorem Tm.secondOfDay_bounds {tm : Tm} (valid : tm.Valid) :
    0 ≤ tm.secondOfDay ∧ tm.secondOfDay < 86400 := by
  obtain ⟨_, _, _, _, _, _, _, _, _, _⟩ := valid
  unfold secondOfDay
  omega

/-- **`timegmCustom` is exact** on a valid broken-down time, of any year an `int` can name. -/
theorem timegmCustom_eq {tm : Tm} (valid : tm.Valid) : timegmCustom tm = .ok valid.seconds := by
  have year := inSigned_32.mp (inSigned_toInt tm.tmYear)
  have month := daysUptoMonth_eq valid.mon_nonneg valid.mon_lt
  have dayOfYear := valid.date.dayOfYear_lt
  have yearLength := daysInYear_bounds valid.date.year
  have beforeMonth := @daysBeforeMonth_nonneg valid.date.year valid.date.month
  simp only [Tm.Valid.date] at dayOfYear yearLength beforeMonth
  obtain ⟨_, _, oneLeMday, mdayLe, _, _, _, _, _, _⟩ := valid
  generalize before : daysBeforeMonth (tm.tmYear.toInt + 1900) tm.tmMon.toInt.toNat = days at *
  have leaps : -521000000 ≤ leapsBefore (tm.tmYear.toInt + 1900) - 477 ∧
      leapsBefore (tm.tmYear.toInt + 1900) - 477 ≤ 521000000 := by
    unfold leapsBefore
    omega
  simp only [Tm.Valid.seconds, Date.dayNumber, Tm.Valid.date, before, daysBeforeYear_eq,
    Tm.secondOfDay]
  generalize leapDays : leapsBefore (tm.tmYear.toInt + 1900) = count at *
  have base : kTMYearBase = 1900 ∧ kEpochYearBase = 1970 ∧ kSecondsInYear = 31536000 ∧
      kSecondsInDay = 86400 ∧ kSecondsInHour = 3600 ∧ kSecondsInMinute = 60 := by decide
  have sinceEpoch : tm.tmYear.toInt + 1900 - 1970 + 1970 = tm.tmYear.toInt + 1900 := by omega
  unfold timegmCustom
  rw [base.1, base.2.1, base.2.2.1, base.2.2.2.1, base.2.2.2.2.1, base.2.2.2.2.2]
  rw [int64_ok (by omega) (by omega), Exec.ok_bind, int64_ok (by omega) (by omega), Exec.ok_bind,
    numLeapDays_eq (by omega) (by omega), Exec.ok_bind, sinceEpoch, leapDays]
  iterate 3 rw [int64_ok (by omega) (by omega), Exec.ok_bind]
  rw [month, Exec.ok_bind]
  iterate 2 rw [int64_ok (by omega) (by omega), Exec.ok_bind]
  rw [int32_ok (by omega) (by omega), Exec.ok_bind]
  iterate 6 rw [int64_ok (by omega) (by omega), Exec.ok_bind]
  rw [int64_ok (by omega) (by omega)]
  exact congrArg Except.ok (by omega)

/-! ## Seconds and the calendar -/

/-- The order of broken-down times: by date, then by the time of the day. -/
def Tm.Valid.Before {tm later : Tm} (valid : tm.Valid) (validLater : later.Valid) : Prop :=
  valid.date.Before validLater.date ∨ valid.date = validLater.date ∧
    (tm.tmHour.toInt < later.tmHour.toInt ∨ tm.tmHour.toInt = later.tmHour.toInt ∧
      (tm.tmMin.toInt < later.tmMin.toInt ∨ tm.tmMin.toInt = later.tmMin.toInt ∧
        tm.tmSec.toInt < later.tmSec.toInt))

theorem Tm.Valid.seconds_lt {tm later : Tm} {valid : tm.Valid} {validLater : later.Valid}
    (order : valid.Before validLater) : valid.seconds < validLater.seconds := by
  have first := Tm.secondOfDay_bounds valid
  have second := Tm.secondOfDay_bounds validLater
  unfold seconds
  rcases order with dates | ⟨sameDate, times⟩
  · have := Date.dayNumber_lt dates
    omega
  · rw [sameDate]
    obtain ⟨_, _, _, _, _, _, _, _, _, _⟩ := valid
    obtain ⟨_, _, _, _, _, _, _, _, _, _⟩ := validLater
    unfold Tm.secondOfDay
    omega

/-- **`timegmCustom` counts the seconds of the calendar.** It neither overflows nor leaves its
tables; the day after lies 86400 seconds later, over month and year borders, and later times give
larger results. -/
theorem timegmCustom_exact {tm : Tm} (valid : tm.Valid) :
    timegmCustom tm = .ok valid.seconds ∧
    (∀ {other : Tm} (validOther : other.Valid), validOther.date = valid.date.next →
      other.secondOfDay = tm.secondOfDay → timegmCustom other = .ok (valid.seconds + 86400)) ∧
    (∀ {later : Tm} (validLater : later.Valid), valid.Before validLater →
      ∃ result laterResult, timegmCustom tm = .ok result ∧ timegmCustom later = .ok laterResult ∧
        result < laterResult) := by
  refine ⟨timegmCustom_eq valid, ?_, ?_⟩
  · intro other validOther nextDate sameTime
    rw [timegmCustom_eq validOther]
    refine congrArg Except.ok ?_
    rw [Tm.Valid.seconds, Tm.Valid.seconds, nextDate, Date.dayNumber_next, sameTime]
    omega
  · intro later validLater order
    exact ⟨_, _, timegmCustom_eq valid, timegmCustom_eq validLater, Tm.Valid.seconds_lt order⟩

/-- The last second of February 28, 1900. -/
def february28 : Tm := ⟨0, 1, 28, 23, 59, 59⟩

/-- 1900 is no leap year: the first of March comes next. -/
theorem timegmCustom_exact_february28 :
    timegmCustom february28 = .ok (-2203891201) ∧
      timegmCustom { february28 with tmMon := 2, tmMday := 1 } = .ok (-2203891201 + 86400) := by
  have valid : february28.Valid := by constructor <;> decide
  have next : { february28 with tmMon := 2, tmMday := 1 : Tm }.Valid := by constructor <;> decide
  have seconds : valid.seconds = -2203891201 := by
    rw [Tm.Valid.seconds, Date.dayNumber, daysBeforeYear_eq]
    rfl
  have exact := timegmCustom_exact valid
  rw [seconds] at exact
  exact ⟨exact.1, exact.2.1 next rfl rfl⟩

end Quickstep.Types
