import Quickstep.Types.DateOperatorOverloads
import Quickstep.Types.Timegm

/-!
# gmtime

The C library converts seconds to a broken-down time. What the datetime code relies on is that the
result is the valid broken-down time of these seconds, wherever the year fits in an `int`.
-/

namespace Quickstep.Types
open Quickstep.Lib

/-- The date on which a number of seconds since the epoch falls. -/
def dateOfSeconds (seconds : Int) : Date := Date.ofDayNumber (seconds / 86400)

/-- **What is assumed of `gmtime_r`**: it is exact for the years of `tm_year`. -/
def GmtimeExact (gmtimeR : BitVec 64 → Tm) : Prop :=
  ∀ time : BitVec 64, InSigned 32 ((dateOfSeconds time.toInt).year - 1900) →
    ∃ valid : (gmtimeR time).Valid, valid.seconds = time.toInt

/-- The broken-down time of a number of seconds. -/
def Tm.ofSeconds (seconds : Int) : Tm where
  tmYear := BitVec.ofInt 32 ((dateOfSeconds seconds).year - 1900)
  tmMon := BitVec.ofInt 32 (dateOfSeconds seconds).month
  tmMday := BitVec.ofInt 32 (dateOfSeconds seconds).day
  tmHour := BitVec.ofInt 32 (seconds % 86400 / 3600)
  tmMin := BitVec.ofInt 32 (seconds % 3600 / 60)
  tmSec := BitVec.ofInt 32 (seconds % 60)

theorem toInt_ofInt_32 {value : Int} (fits : InSigned 32 value) :
    (BitVec.ofInt 32 value).toInt = value := by
  rw [inSigned_32] at fits
  rw [BitVec.toInt_ofInt, Int.bmod_def]
  omega

theorem Tm.ofSeconds_exact {seconds : Int}
    (fits : InSigned 32 ((dateOfSeconds seconds).year - 1900)) :
    ∃ valid : (Tm.ofSeconds seconds).Valid, valid.seconds = seconds := by
  have monthLt := (dateOfSeconds seconds).month_lt
  have oneLe := (dateOfSeconds seconds).one_le_day
  have dayLe := (dateOfSeconds seconds).day_le
  have length := (@daysInMonth_bounds (dateOfSeconds seconds).year (dateOfSeconds seconds).month).2
  have small (value : Int) (lower : 0 ≤ value) (upper : value < 86400) :
      (BitVec.ofInt 32 value).toInt = value := toInt_ofInt_32 (by rw [inSigned_32]; omega)
  have year : (Tm.ofSeconds seconds).tmYear.toInt = (dateOfSeconds seconds).year - 1900 :=
    toInt_ofInt_32 fits
  have month : (Tm.ofSeconds seconds).tmMon.toInt = (dateOfSeconds seconds).month :=
    small _ (by omega) (by omega)
  have day : (Tm.ofSeconds seconds).tmMday.toInt = (dateOfSeconds seconds).day :=
    small _ (by omega) (by omega)
  have hour : (Tm.ofSeconds seconds).tmHour.toInt = seconds % 86400 / 3600 :=
    small _ (by omega) (by omega)
  have minute : (Tm.ofSeconds seconds).tmMin.toInt = seconds % 3600 / 60 :=
    small _ (by omega) (by omega)
  have second : (Tm.ofSeconds seconds).tmSec.toInt = seconds % 60 := small _ (by omega) (by omega)
  have valid : (Tm.ofSeconds seconds).Valid := by
    constructor
    case mday_le => rwa [year, month, day, Int.sub_add_cancel, Int.toNat_natCast]
    all_goals omega
  have date : valid.date = dateOfSeconds seconds := by
    refine Date.ext ?_ ?_ day
    · exact (congrArg (· + 1900) year).trans (Int.sub_add_cancel _ _)
    · exact (congrArg Int.toNat month).trans (Int.toNat_natCast _)
  refine ⟨valid, ?_⟩
  rw [Tm.Valid.seconds, date, dateOfSeconds, Date.dayNumber_ofDayNumber, Tm.secondOfDay, hour, minute,
    second]
  omega

/-- An exact `gmtime_r` exists. -/
theorem gmtimeExact_ofSeconds : GmtimeExact fun time => Tm.ofSeconds time.toInt :=
  fun _ => Tm.ofSeconds_exact

/-- The date and the second of the day of a valid broken-down time are those of its seconds. -/
theorem Tm.Valid.date_eq {tm : Tm} (valid : tm.Valid) :
    valid.date = dateOfSeconds valid.seconds ∧ tm.secondOfDay = valid.seconds % 86400 := by
  have bounds := Tm.secondOfDay_bounds valid
  have day : valid.seconds / 86400 = valid.date.dayNumber := by
    rw [seconds]
    omega
  refine ⟨?_, ?_⟩
  · rw [dateOfSeconds, day, Date.ofDayNumber_dayNumber]
  · rw [seconds]
    omega

/-! ## The seconds of a datetime -/

theorem toInt_epochTime (ticks : BitVec 64) :
    (DatetimeLit.epochTime ticks).toInt = ticks.toInt.tdiv 1000000 := by
  have bounds : -9223372036854775808 ≤ ticks.toInt ∧ ticks.toInt < 9223372036854775808 :=
    ⟨BitVec.le_toInt ticks, BitVec.toInt_lt⟩
  have unit : DatetimeLit.ticksPerSecond.toInt = 1000000 := rfl
  rw [DatetimeLit.epochTime, BitVec.toInt_sdiv, unit, Int.bmod_def]
  rcases Int.le_total 0 ticks.toInt with nonneg | nonpos
  · rw [Int.tdiv_eq_ediv_of_nonneg nonneg]
    omega
  · rw [tdiv_of_nonpos nonpos]
    omega

theorem toInt_subseconds (ticks : BitVec 64) :
    (DatetimeLit.subseconds ticks).toInt = ticks.toInt.tmod 1000000 := by
  have unit : DatetimeLit.ticksPerSecond.toInt = 1000000 := rfl
  rw [DatetimeLit.subseconds, BitVec.toInt_srem, unit]

/-- Truncating division of ticks into seconds and the rest. -/
theorem tdiv_tmod_bounds {ticks seconds subseconds : Int} (isSeconds : seconds = ticks.tdiv 1000000)
    (isSubseconds : subseconds = ticks.tmod 1000000) :
    ticks = 1000000 * seconds + subseconds ∧ (0 ≤ ticks → 0 ≤ subseconds ∧ subseconds < 1000000) ∧
      (ticks ≤ 0 → -1000000 < subseconds ∧ subseconds ≤ 0) := by
  have whole := Int.mul_tdiv_add_tmod ticks 1000000
  rw [← isSeconds, ← isSubseconds] at whole
  refine ⟨whole.symm, fun nonneg => ?_, fun nonpos => ?_⟩
  · rw [Int.tdiv_eq_ediv_of_nonneg nonneg] at isSeconds
    omega
  · rw [tdiv_of_nonpos nonpos] at isSeconds
    omega

/-- The years of the datetimes. -/
theorem year_of_datetime_bounds {seconds : Int} (lower : -9223372036855 ≤ seconds)
    (upper : seconds ≤ 9223372036855) :
    -298031 ≤ (dateOfSeconds seconds).year ∧ (dateOfSeconds seconds).year ≤ 301971 := by
  have number := Date.dayNumber_ofDayNumber (seconds / 86400)
  exact @Date.year_bounds (dateOfSeconds seconds) 300000
    (by rw [dateOfSeconds, number]; omega) (by rw [dateOfSeconds, number]; omega)

/-- The year of every datetime fits in `tm_year`. -/
theorem year_of_datetime {seconds : Int} (lower : -9223372036855 ≤ seconds)
    (upper : seconds ≤ 9223372036855) : InSigned 32 ((dateOfSeconds seconds).year - 1900) := by
  have years := year_of_datetime_bounds lower upper
  rw [inSigned_32]
  omega

end Quickstep.Types
