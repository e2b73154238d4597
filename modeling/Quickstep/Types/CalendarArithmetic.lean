import Quickstep.Types.Gmtime

/-!
# Calendar arithmetic

The operators that move a datetime by a year-month interval. Both of them work on the broken-down
time of the seconds, whose month they carry in one direction only: `+` when it passes December and
`-` when it falls below January.
-/

namespace Quickstep.Types
open Quickstep.Lib

section Operators

variable (platform : Platform) (ticks months : BitVec 64)

/-- The broken-down time that `operator+` hands to `timegm`. -/
def timeinfoPlus : Tm :=
  let timeinfo := platform.gmtimeR (DatetimeLit.epochTime ticks)
  let tmYear := (timeinfo.tmYear.signExtend 64 + months.sdiv 12).setWidth 32
  let tmMon : BitVec 32 := (timeinfo.tmMon.signExtend 64 + months.srem 12).setWidth 32
  clampDayOfMonth
    (if BitVec.slt 11 tmMon then { timeinfo with tmYear := tmYear + 1, tmMon := tmMon - 12 }
      else { timeinfo with tmYear, tmMon })

/-- The broken-down time that `operator-` hands to `timegm`. -/
def timeinfoMinus : Tm :=
  let timeinfo := platform.gmtimeR (DatetimeLit.epochTime ticks)
  let tmYear := (timeinfo.tmYear.signExtend 64 - months.sdiv 12).setWidth 32
  let tmMon : BitVec 32 := (timeinfo.tmMon.signExtend 64 - months.srem 12).setWidth 32
  clampDayOfMonth
    (if BitVec.slt tmMon 0 then { timeinfo with tmYear := tmYear - 1, tmMon := tmMon + 12 }
      else { timeinfo with tmYear, tmMon })

/-- The ticks of a broken-down time, with the subseconds of the datetime it came from. -/
def ticksOfTimeinfo (timeinfo : Tm) : Exec Int := do
  let time ← timegmCustom timeinfo
  let whole ← int64 (time * DatetimeLit.ticksPerSecond.toInt)
  int64 (whole + (DatetimeLit.subseconds ticks).toInt)

/-- `operator+` of a datetime and a year-month interval. -/
def operatorPlus : Exec Int := ticksOfTimeinfo ticks (timeinfoPlus platform ticks months)

/-- `operator-` of a datetime and a year-month interval. -/
def operatorMinus : Exec Int := ticksOfTimeinfo ticks (timeinfoMinus platform ticks months)

/-- Where the checked computation has a result, the wrapping one has the same: `quickstep::timegm`
is `timegmCustom`. -/
theorem rebuildDatetime_of_ok {platform : Platform} {ticks : BitVec 64} {result : Int}
    (custom : ∀ tm time, timegmCustom tm = .ok time → platform.timegm tm = BitVec.ofInt 64 time)
    (timeinfo : Tm) (run : ticksOfTimeinfo ticks (clampDayOfMonth timeinfo) = .ok result) :
    rebuildDatetime platform timeinfo ticks = BitVec.ofInt 64 result := by
  obtain ⟨time, converted, run⟩ := Exec.bind_ok run
  obtain ⟨whole, scaled, run⟩ := Exec.bind_ok run
  obtain ⟨rfl, -⟩ := checked_eq_ok.mp scaled
  obtain ⟨rfl, -⟩ := checked_eq_ok.mp run
  rw [rebuildDatetime, custom _ _ converted, DatetimeLit.fromEpochTime, BitVec.ofInt_add,
    BitVec.ofInt_mul, BitVec.ofInt_toInt, BitVec.ofInt_toInt]

/-- The unchecked operators agree with the checked ones. -/
theorem addMonths_of_ok {platform : Platform} {ticks months : BitVec 64} {result : Int}
    (custom : ∀ tm time, timegmCustom tm = .ok time → platform.timegm tm = BitVec.ofInt 64 time) :
    (operatorPlus platform ticks months = .ok result →
      addMonths platform ticks months = BitVec.ofInt 64 result) ∧
    (operatorMinus platform ticks months = .ok result →
      subtractMonths platform ticks months = BitVec.ofInt 64 result) :=
  ⟨rebuildDatetime_of_ok custom _, rebuildDatetime_of_ok custom _⟩

end Operators

/-! ## The day of the month -/

theorem and_mask_eq_zero_iff (value : BitVec 32) :
    (value &&& 3 = 0 ↔ value.toInt % 4 = 0) ∧ (value &&& 15 = 0 ↔ value.toInt % 16 = 0) := by
  have three := Nat.and_two_pow_sub_one_eq_mod value.toNat 2
  have fifteen := Nat.and_two_pow_sub_one_eq_mod value.toNat 4
  have signed := BitVec.toInt_eq_toNat_cond value
  rw [← BitVec.toNat_inj, ← BitVec.toNat_inj, BitVec.toNat_and, BitVec.toNat_and]
  rw [show (3 : BitVec 32).toNat = 2 ^ 2 - 1 from rfl, show (15 : BitVec 32).toNat = 2 ^ 4 - 1 from rfl,
    three, fifteen]
  show (_ = 0 ↔ _) ∧ (_ = 0 ↔ _)
  constructor <;> split at signed <;> omega

/-- The test for a leap year, of a year counted from 1900. -/
theorem leapTest_iff {year : BitVec 32} (fits : year.toInt + 1900 < 2147483648) :
    (year &&& 3 = 0 ∧ (year.srem 25 ≠ 0 ∨ (year + 1900) &&& 15 = 0)) ↔
      IsLeap (year.toInt + 1900) := by
  have bounds := inSigned_32.mp (inSigned_toInt year)
  have base : (1900 : BitVec 32).toInt = 1900 := rfl
  have full : (year + 1900).toInt = year.toInt + 1900 := by
    rw [BitVec.toInt_add, base, Int.bmod_def]
    omega
  have remainder : year.srem 25 = 0 ↔ year.toInt % 25 = 0 := by
    rw [← BitVec.toInt_inj, BitVec.toInt_srem]
    show year.toInt.tmod 25 = 0 ↔ _
    rw [← Int.dvd_iff_tmod_eq_zero, Int.dvd_iff_emod_eq_zero]
  rw [(and_mask_eq_zero_iff year).1, (and_mask_eq_zero_iff (year + 1900)).2, full, ne_eq, remainder]
  unfold IsLeap
  omega

theorem clampDayOfMonth_eq {tm : Tm} (fits : tm.tmYear.toInt + 1900 < 2147483648)
    (nonneg : 0 ≤ tm.tmMon.toInt) (oneLe : 1 ≤ tm.tmMday.toInt) (le31 : tm.tmMday.toInt ≤ 31) :
    ∃ day : BitVec 32, clampDayOfMonth tm = { tm with tmMday := day } ∧
      day.toInt = min tm.tmMday.toInt
        (daysInMonth (tm.tmYear.toInt + 1900) tm.tmMon.toInt.toNat) := by
  have month : tm.tmMon.toInt.toNat = tm.tmMon.toNat := by
    have := BitVec.toInt_eq_toNat_cond tm.tmMon
    split at this <;> omega
  have shortMonth : (if tm.tmMday = 31 then 30 else tm.tmMday).toInt = min tm.tmMday.toInt 30 := by
    split
    · rename_i last
      rw [last]
      rfl
    · rename_i other
      have notLast : tm.tmMday.toInt ≠ 31 := fun last => other (BitVec.eq_of_toInt_eq last)
      omega
  rw [month]
  unfold clampDayOfMonth
  split
  case h_1 february =>
    rw [february]
    refine ⟨_, rfl, ?_⟩
    simp only [leapTest_iff fits, daysInMonth, BitVec.slt_eq_decide, decide_eq_true_eq]
    split
    · split
      · have length : (29 : BitVec 32).toInt = 29 := rfl
        omega
      · have length : (29 : BitVec 32).toInt = 29 := rfl
        omega
    · have length : (28 : BitVec 32).toInt = 28 := rfl
      split <;> omega
  case h_2 isMonth => rw [isMonth]; exact ⟨_, rfl, shortMonth⟩
  case h_3 isMonth => rw [isMonth]; exact ⟨_, rfl, shortMonth⟩
  case h_4 isMonth => rw [isMonth]; exact ⟨_, rfl, shortMonth⟩
  case h_5 isMonth => rw [isMonth]; exact ⟨_, rfl, shortMonth⟩
  case h_6 notOne notThree notFive notEight notTen =>
    refine ⟨tm.tmMday, rfl, ?_⟩
    have long : daysInMonth (tm.tmYear.toInt + 1900) tm.tmMon.toNat = 31 := by
      unfold daysInMonth
      split
      · exact absurd ‹_› notOne
      · exact absurd ‹_› notThree
      · exact absurd ‹_› notFive
      · exact absurd ‹_› notEight
      · exact absurd ‹_› notTen
      · rfl
    omega

theorem clampDayOfMonth_tmMon (tm : Tm) : (clampDayOfMonth tm).tmMon = tm.tmMon := by
  unfold clampDayOfMonth
  split <;> rfl

/-- **A broken-down time in its new month**: once the month index has been carried, clamping makes
it the date the calendar moves to, at the same time of the day. -/
theorem timegmCustom_moved {tm : Tm} (valid : tm.Valid) {tmYear tmMon : BitVec 32} {count : Int}
    (year : tmYear.toInt + 1900 = (valid.date.monthIndex + count) / 12)
    (month : tmMon.toInt = (valid.date.monthIndex + count) % 12)
    (fits : tmYear.toInt + 1900 < 2147483648) :
    timegmCustom (clampDayOfMonth { tm with tmYear := tmYear, tmMon := tmMon }) =
      .ok (86400 * (valid.date.addMonths count).dayNumber + tm.secondOfDay) := by
  have length := (@daysInMonth_bounds valid.date.year valid.date.month).2
  have mdayLe := valid.date.day_le
  simp only [Tm.Valid.date] at length mdayLe
  obtain ⟨day, clamped, dayEq⟩ :=
    @clampDayOfMonth_eq { tm with tmYear := tmYear, tmMon := tmMon } fits (by simp only; omega)
      valid.one_le_mday (by simp only; omega)
  simp only [year, month] at dayEq
  have monthLe : 28 ≤ monthLength (valid.date.monthIndex + count) := daysInMonth_bounds.1
  have oneLe := valid.one_le_mday
  rw [monthLength] at monthLe
  rw [clamped]
  have validMoved : ({ tm with tmYear := tmYear, tmMon := tmMon, tmMday := day } : Tm).Valid := by
    obtain ⟨_, _, _, _, _, _, _, _, _, _⟩ := valid
    constructor
    case mday_le =>
      simp only [year, month, dayEq]
      omega
    all_goals simp only
    all_goals omega
  have date : validMoved.date = valid.date.addMonths count := by
    refine Date.ext year ?_ dayEq
    exact congrArg Int.toNat month
  rw [timegmCustom_eq validMoved, Tm.Valid.seconds, date]
  rfl

/-! ## Narrowing -/

theorem toInt_setWidth_32 {wide : BitVec 64} (fits : InSigned 32 wide.toInt) :
    (wide.setWidth 32).toInt = wide.toInt := by
  rw [inSigned_32] at fits
  have signed := BitVec.toInt_eq_toNat_cond wide
  rw [BitVec.toInt_setWidth, Int.bmod_def]
  split at signed <;> omega

theorem toInt_add_32 {value amount : BitVec 32} {number : Int} (isNumber : amount.toInt = number)
    (fits : -2147483648 ≤ value.toInt + number ∧ value.toInt + number < 2147483648) :
    (value + amount).toInt = value.toInt + number := by
  rw [BitVec.toInt_add, isNumber, Int.bmod_def]
  omega

theorem toInt_sub_32 {value amount : BitVec 32} {number : Int} (isNumber : amount.toInt = number)
    (fits : -2147483648 ≤ value.toInt - number ∧ value.toInt - number < 2147483648) :
    (value - amount).toInt = value.toInt - number := by
  rw [BitVec.toInt_sub, isNumber, Int.bmod_def]
  omega

/-- The years of an interval, by truncating division. -/
theorem toInt_sdiv_twelve (months : BitVec 64) : (months.sdiv 12).toInt = months.toInt.tdiv 12 := by
  have bounds : -9223372036854775808 ≤ months.toInt ∧ months.toInt < 9223372036854775808 :=
    ⟨BitVec.le_toInt months, BitVec.toInt_lt⟩
  have twelve : (12 : BitVec 64).toInt = 12 := rfl
  rw [BitVec.toInt_sdiv, twelve, Int.bmod_def]
  rcases Int.le_total 0 months.toInt with nonneg | nonpos
  · rw [Int.tdiv_eq_ediv_of_nonneg nonneg]
    omega
  · rw [tdiv_of_nonpos nonpos]
    omega

theorem toInt_srem_twelve (months : BitVec 64) : (months.srem 12).toInt = months.toInt.tmod 12 := by
  have twelve : (12 : BitVec 64).toInt = 12 := rfl
  rw [BitVec.toInt_srem, twelve]

/-- A field of the broken-down time moved by a part of the interval. -/
theorem toInt_moved {field : BitVec 32} {part : BitVec 64}
    (small : -1000000000000000000 ≤ part.toInt ∧ part.toInt ≤ 1000000000000000000) :
    (InSigned 32 (field.toInt + part.toInt) →
      ((field.signExtend 64 + part).setWidth 32).toInt = field.toInt + part.toInt) ∧
    (InSigned 32 (field.toInt - part.toInt) →
      ((field.signExtend 64 - part).setWidth 32).toInt = field.toInt - part.toInt) := by
  have bounds := inSigned_32.mp (inSigned_toInt field)
  have extended : (field.signExtend 64).toInt = field.toInt :=
    BitVec.toInt_signExtend_of_le (by decide)
  have sum : (field.signExtend 64 + part).toInt = field.toInt + part.toInt := by
    rw [BitVec.toInt_add, extended, Int.bmod_def]
    omega
  have difference : (field.signExtend 64 - part).toInt = field.toInt - part.toInt := by
    rw [BitVec.toInt_sub, extended, Int.bmod_def]
    omega
  exact ⟨fun fits => (toInt_setWidth_32 (sum ▸ fits)).trans sum,
    fun fits => (toInt_setWidth_32 (difference ▸ fits)).trans difference⟩

/-! ## Carrying the month -/

/-- The quotient and remainder of an interval by the year. -/
theorem months_parts (months : BitVec 64) :
    12 * months.toInt.tdiv 12 + months.toInt.tmod 12 = months.toInt ∧
      -12 < months.toInt.tmod 12 ∧ months.toInt.tmod 12 < 12 ∧
      -1000000000000000000 ≤ months.toInt.tdiv 12 ∧ months.toInt.tdiv 12 ≤ 1000000000000000000 := by
  have bounds : -9223372036854775808 ≤ months.toInt ∧ months.toInt < 9223372036854775808 :=
    ⟨BitVec.le_toInt months, BitVec.toInt_lt⟩
  have whole := Int.mul_tdiv_add_tmod months.toInt 12
  rcases Int.le_total 0 months.toInt with nonneg | nonpos
  · rw [Int.tdiv_eq_ediv_of_nonneg nonneg] at whole ⊢
    omega
  · rw [tdiv_of_nonpos nonpos] at whole ⊢
    omega

section Carry

variable {platform : Platform} {ticks months : BitVec 64}
  (valid : (platform.gmtimeR (DatetimeLit.epochTime ticks)).Valid)
include valid

/-- The fields of the broken-down time, as parts of its date. -/
theorem date_fields :
    ((valid.date.month : Nat) : Int) =
        (platform.gmtimeR (DatetimeLit.epochTime ticks)).tmMon.toInt ∧
      valid.date.year = (platform.gmtimeR (DatetimeLit.epochTime ticks)).tmYear.toInt + 1900 ∧
      valid.date.monthIndex = 12 * valid.date.year + valid.date.month ∧ valid.date.month < 12 :=
  ⟨Int.toNat_of_nonneg valid.mon_nonneg, rfl, rfl, valid.date.month_lt⟩

/-- `operator+` carries a month index past December and leaves a negative one as it is. -/
theorem timeinfoPlus_spec
    (lower : -400000 ≤ (valid.date.monthIndex + months.toInt) / 12)
    (upper : (valid.date.monthIndex + months.toInt) / 12 ≤ 400000) :
    (0 ≤ (timeinfoPlus platform ticks months).tmMon.toInt ↔
      0 ≤ valid.date.month + months.toInt.tmod 12) ∧
    (0 ≤ valid.date.month + months.toInt.tmod 12 →
      (timeinfoPlus platform ticks months).tmMon.toInt ≤ 11 ∧
      timegmCustom (timeinfoPlus platform ticks months) =
        .ok (86400 * (valid.date.addMonths months.toInt).dayNumber +
          (platform.gmtimeR (DatetimeLit.epochTime ticks)).secondOfDay)) := by
  obtain ⟨whole, remLower, remUpper, divLower, divUpper⟩ := months_parts months
  obtain ⟨monthEq, yearEq, index, monthLt⟩ := date_fields valid
  have year := (@toInt_moved (platform.gmtimeR (DatetimeLit.epochTime ticks)).tmYear (months.sdiv 12)
    (by rw [toInt_sdiv_twelve]; omega)).1
  have month := (@toInt_moved (platform.gmtimeR (DatetimeLit.epochTime ticks)).tmMon (months.srem 12)
    (by rw [toInt_srem_twelve]; omega)).1
  rw [toInt_sdiv_twelve, inSigned_32] at year
  rw [toInt_srem_twelve, inSigned_32] at month
  replace year := year (by omega)
  replace month := month (by omega)
  simp only [timeinfoPlus, clampDayOfMonth_tmMon]
  generalize ((platform.gmtimeR (DatetimeLit.epochTime ticks)).tmYear.signExtend 64 +
    months.sdiv 12).setWidth 32 = movedYear at *
  generalize ((platform.gmtimeR (DatetimeLit.epochTime ticks)).tmMon.signExtend 64 +
    months.srem 12).setWidth 32 = movedMon at *
  have eleven : (11 : BitVec 32).toInt = 11 := rfl
  simp only [BitVec.slt_eq_decide, decide_eq_true_eq, eleven]
  split
  · have carriedMon : (movedMon - 12).toInt = movedMon.toInt - 12 := toInt_sub_32 rfl (by omega)
    have carriedYear : (movedYear + 1).toInt = movedYear.toInt + 1 := toInt_add_32 rfl (by omega)
    refine ⟨by simp only [carriedMon]; omega, fun _ => ⟨by simp only [carriedMon]; omega, ?_⟩⟩
    exact timegmCustom_moved valid (by omega) (by omega) (by omega)
  · refine ⟨by simp only; omega, fun _ => ⟨by simp only; omega, ?_⟩⟩
    exact timegmCustom_moved valid (by omega) (by omega) (by omega)

/-- `operator-` carries a month index below January and leaves one past December as it is. -/
theorem timeinfoMinus_spec
    (lower : -400000 ≤ (valid.date.monthIndex + -months.toInt) / 12)
    (upper : (valid.date.monthIndex + -months.toInt) / 12 ≤ 400000) :
    ((timeinfoMinus platform ticks months).tmMon.toInt ≤ 11 ↔
      valid.date.month - months.toInt.tmod 12 ≤ 11) ∧
    (valid.date.month - months.toInt.tmod 12 ≤ 11 →
      0 ≤ (timeinfoMinus platform ticks months).tmMon.toInt ∧
      timegmCustom (timeinfoMinus platform ticks months) =
        .ok (86400 * (valid.date.addMonths (-months.toInt)).dayNumber +
          (platform.gmtimeR (DatetimeLit.epochTime ticks)).secondOfDay)) := by
  obtain ⟨whole, remLower, remUpper, divLower, divUpper⟩ := months_parts months
  obtain ⟨monthEq, yearEq, index, monthLt⟩ := date_fields valid
  have year := (@toInt_moved (platform.gmtimeR (DatetimeLit.epochTime ticks)).tmYear (months.sdiv 12)
    (by rw [toInt_sdiv_twelve]; omega)).2
  have month := (@toInt_moved (platform.gmtimeR (DatetimeLit.epochTime ticks)).tmMon (months.srem 12)
    (by rw [toInt_srem_twelve]; omega)).2
  rw [toInt_sdiv_twelve, inSigned_32] at year
  rw [toInt_srem_twelve, inSigned_32] at month
  replace year := year (by omega)
  replace month := month (by omega)
  simp only [timeinfoMinus, clampDayOfMonth_tmMon]
  generalize ((platform.gmtimeR (DatetimeLit.epochTime ticks)).tmYear.signExtend 64 -
    months.sdiv 12).setWidth 32 = movedYear at *
  generalize ((platform.gmtimeR (DatetimeLit.epochTime ticks)).tmMon.signExtend 64 -
    months.srem 12).setWidth 32 = movedMon at *
  have zero : (0 : BitVec 32).toInt = 0 := rfl
  simp only [BitVec.slt_eq_decide, decide_eq_true_eq, zero]
  split
  · have carriedMon : (movedMon + 12).toInt = movedMon.toInt + 12 := toInt_add_32 rfl (by omega)
    have carriedYear : (movedYear - 1).toInt = movedYear.toInt - 1 := toInt_sub_32 rfl (by omega)
    refine ⟨by simp only [carriedMon]; omega, fun _ => ⟨by simp only [carriedMon]; omega, ?_⟩⟩
    exact timegmCustom_moved valid (by omega) (by omega) (by omega)
  · refine ⟨by simp only; omega, fun _ => ⟨by simp only; omega, ?_⟩⟩
    exact timegmCustom_moved valid (by omega) (by omega) (by omega)

end Carry

/-! ## The instant an interval moves to -/

/-- The date of an instant, in microseconds since the epoch. -/
def dateOfTicks (ticks : Int) : Date := Date.ofDayNumber (ticks / 86400000000)

/-- The instant `count` months later in the calendar, at the same time of the day. -/
def movedTicks (ticks count : Int) : Int :=
  86400000000 * ((dateOfTicks ticks).addMonths count).dayNumber + ticks % 86400000000

/-- The seconds of a datetime, rounded to zero, do not lead to another day than the instant does:
the instant is not before the epoch within the last second of a day, or the day after it moves to
the day after the one it moves to. -/
def KeepsDay (ticks count : Int) : Prop :=
  0 ≤ ticks ∨ ticks % 1000000 = 0 ∨ ticks.tdiv 1000000 % 86400 ≠ 0 ∨
    ((dateOfTicks ticks).day < daysInMonth (dateOfTicks ticks).year (dateOfTicks ticks).month ↔
      (dateOfTicks ticks).day < monthLength ((dateOfTicks ticks).monthIndex + count))

instance (ticks count : Int) : Decidable (KeepsDay ticks count) :=
  inferInstanceAs (Decidable (_ ∨ _ ∨ _ ∨ _))

section Instants

variable {ticks count : Int}

/-- The date of the rounded seconds is that of the instant, or the next one. -/
theorem dateOfSeconds_tdiv (ticks : Int) :
    (dateOfSeconds (ticks.tdiv 1000000) = dateOfTicks ticks ∧
      (0 ≤ ticks ∨ ticks % 1000000 = 0 ∨ ticks.tdiv 1000000 % 86400 ≠ 0) ∧
      1000000 * (ticks.tdiv 1000000 % 86400) + ticks.tmod 1000000 = ticks % 86400000000) ∨
    (dateOfSeconds (ticks.tdiv 1000000) = (dateOfTicks ticks).next ∧
      ¬ (0 ≤ ticks ∨ ticks % 1000000 = 0 ∨ ticks.tdiv 1000000 % 86400 ≠ 0) ∧
      1000000 * (ticks.tdiv 1000000 % 86400) + ticks.tmod 1000000 + 86400000000 =
        ticks % 86400000000) := by
  obtain ⟨whole, positive, negative⟩ := @tdiv_tmod_bounds ticks _ _ rfl rfl
  generalize ticks.tdiv 1000000 = seconds at *
  generalize ticks.tmod 1000000 = subseconds at *
  by_cases sameDay : 0 ≤ ticks ∨ ticks % 1000000 = 0 ∨ seconds % 86400 ≠ 0
  · refine .inl ⟨?_, sameDay, by omega⟩
    rw [dateOfSeconds, dateOfTicks]
    congr 1
    omega
  · refine .inr ⟨Date.dayNumber_injective ?_, sameDay, by omega⟩
    rw [dateOfSeconds, Date.dayNumber_ofDayNumber, Date.dayNumber_next, dateOfTicks,
      Date.dayNumber_ofDayNumber]
    omega

/-- **The rounded seconds, moved**, and the subseconds make up the moved instant exactly when the
rounding keeps the day. -/
theorem moved_seconds_iff :
    1000000 * (86400 * ((dateOfSeconds (ticks.tdiv 1000000)).addMonths count).dayNumber +
        ticks.tdiv 1000000 % 86400) + ticks.tmod 1000000 = movedTicks ticks count ↔
      KeepsDay ticks count := by
  unfold movedTicks KeepsDay
  rcases dateOfSeconds_tdiv ticks with ⟨sameDate, sameDay, rest⟩ | ⟨nextDate, otherDay, rest⟩
  · rw [sameDate]
    omega
  · rw [nextDate, ← Date.dayNumber_next_addMonths_iff]
    omega

theorem moved_year_bounds (fits : InSigned 64 (movedTicks ticks count)) :
    -400000 ≤ ((dateOfSeconds (ticks.tdiv 1000000)).monthIndex + count) / 12 ∧
      ((dateOfSeconds (ticks.tdiv 1000000)).monthIndex + count) / 12 ≤ 400000 := by
  rw [inSigned_64, movedTicks] at fits
  have years := @Date.year_bounds ((dateOfTicks ticks).addMonths count) 300000 (by omega) (by omega)
  have index := Date.monthIndex_addMonths (dateOfTicks ticks) count
  have parts := Date.monthIndex_div ((dateOfTicks ticks).addMonths count)
  rcases dateOfSeconds_tdiv ticks with ⟨sameDate, _, _⟩ | ⟨nextDate, _, _⟩
  · rw [sameDate]
    omega
  · rw [nextDate]
    rcases (dateOfTicks ticks).next_cases with ⟨_, same, _⟩ | ⟨_, after, _⟩ <;> omega

end Instants

/-! ## The operators -/

/-- An operator moves its datetime as the calendar says, and hands a month to `timegm`. -/
structure Moves (timeinfo : Tm) (result : Exec Int) (ticks count : Int) : Prop where
  month_index : 0 ≤ timeinfo.tmMon.toInt ∧ timeinfo.tmMon.toInt ≤ 11
  instant : result = .ok (movedTicks ticks count)

/-- The whole seconds of the moved instant, which are computed first, fit in the ticks. -/
def SecondsFit (ticks count : Int) : Prop :=
  InSigned 64 (movedTicks ticks count - ticks.tmod 1000000)

instance (ticks count : Int) : Decidable (SecondsFit ticks count) :=
  inferInstanceAs (Decidable (InSigned _ _))

/-- An operator moves its datetime exactly when it carries the month, the seconds fit and the
rounding of the seconds keeps the day. -/
theorem moves_iff {ticks : BitVec 64} {timeinfo : Tm} {count : Int} {carried : Prop}
    (fits : InSigned 64 (movedTicks ticks.toInt count))
    (carries : 0 ≤ timeinfo.tmMon.toInt ∧ timeinfo.tmMon.toInt ≤ 11 ↔ carried)
    (converted : carried → timegmCustom timeinfo =
      .ok (86400 * ((dateOfSeconds (ticks.toInt.tdiv 1000000)).addMonths count).dayNumber +
        ticks.toInt.tdiv 1000000 % 86400)) :
    Moves timeinfo (ticksOfTimeinfo ticks timeinfo) ticks.toInt count ↔
      carried ∧ SecondsFit ticks.toInt count ∧ KeepsDay ticks.toInt count := by
  have same := @moved_seconds_iff ticks.toInt count
  have unit : DatetimeLit.ticksPerSecond.toInt = 1000000 := rfl
  generalize 86400 * ((dateOfSeconds (ticks.toInt.tdiv 1000000)).addMonths count).dayNumber +
    ticks.toInt.tdiv 1000000 % 86400 = moved at *
  have run (isCarried : carried) : ticksOfTimeinfo ticks timeinfo =
      (int64 (moved * 1000000) >>= fun whole => int64 (whole + ticks.toInt.tmod 1000000)) := by
    rw [ticksOfTimeinfo, converted isCarried, Exec.ok_bind, unit, toInt_subseconds]
  unfold SecondsFit
  constructor
  · rintro ⟨index, instant⟩
    have isCarried := carries.mp index
    rw [run isCarried] at instant
    obtain ⟨whole, scaled, added⟩ := Exec.bind_ok instant
    obtain ⟨rfl, wholeFits⟩ := checked_eq_ok.mp scaled
    obtain ⟨sum, _⟩ := checked_eq_ok.mp added
    refine ⟨isCarried, ?_, same.mp (by omega)⟩
    rw [sum, Int.add_sub_cancel]
    exact wholeFits
  · rintro ⟨isCarried, wholeFits, keepsDay⟩
    have sum := same.mpr keepsDay
    refine ⟨carries.mpr isCarried, ?_⟩
    rw [run isCarried]
    rw [inSigned_64] at wholeFits fits
    rw [int64_ok (by omega) (by omega), Exec.ok_bind, int64_ok (by omega) (by omega)]
    exact congrArg Except.ok (by omega)

/-- The month of the seconds of a datetime, rounded to zero, counted from January. -/
def monthOfSeconds (ticks : Int) : Int := (dateOfSeconds (ticks.tdiv 1000000)).month

/-- **Moving a datetime by months.** The operators agree with the calendar exactly when the months
beyond whole years do not lead below January (`+`) or past December (`-`), the moved whole seconds
fit, and rounding a negative tick count to seconds does not change what happens to the day. -/
theorem operators_move_iff {platform : Platform} (gmtime : GmtimeExact platform.gmtimeR)
    (ticks months : BitVec 64) :
    (InSigned 64 (movedTicks ticks.toInt months.toInt) →
      (Moves (timeinfoPlus platform ticks months) (operatorPlus platform ticks months) ticks.toInt
          months.toInt ↔
        0 ≤ monthOfSeconds ticks.toInt + months.toInt.tmod 12 ∧
          SecondsFit ticks.toInt months.toInt ∧ KeepsDay ticks.toInt months.toInt)) ∧
    (InSigned 64 (movedTicks ticks.toInt (-months.toInt)) →
      (Moves (timeinfoMinus platform ticks months) (operatorMinus platform ticks months) ticks.toInt
          (-months.toInt) ↔
        monthOfSeconds ticks.toInt - months.toInt.tmod 12 ≤ 11 ∧
          SecondsFit ticks.toInt (-months.toInt) ∧ KeepsDay ticks.toInt (-months.toInt))) := by
  have bounds : -9223372036854775808 ≤ ticks.toInt ∧ ticks.toInt < 9223372036854775808 :=
    ⟨BitVec.le_toInt ticks, BitVec.toInt_lt⟩
  obtain ⟨whole, positive, negative⟩ := @tdiv_tmod_bounds ticks.toInt _ _ rfl rfl
  have seconds := toInt_epochTime ticks
  obtain ⟨valid, same⟩ := gmtime (DatetimeLit.epochTime ticks)
    (by rw [seconds]; exact year_of_datetime (by omega) (by omega))
  rw [seconds] at same
  obtain ⟨date, secondOfDay⟩ := valid.date_eq
  rw [same] at date secondOfDay
  obtain ⟨wholeMonths, remLower, remUpper, _⟩ := months_parts months
  obtain ⟨_, _, _, monthLt⟩ := date_fields valid
  unfold monthOfSeconds
  constructor
  · intro fits
    have years := moved_year_bounds fits
    rw [← date] at years ⊢
    obtain ⟨index, converted⟩ := timeinfoPlus_spec valid years.1 years.2
    rw [secondOfDay] at converted
    refine moves_iff fits ⟨fun inside => index.mp inside.1, fun carried => ?_⟩ ?_
    · exact ⟨index.mpr carried, (converted carried).1⟩
    · rw [← date]
      exact fun carried => (converted carried).2
  · intro fits
    have years := moved_year_bounds fits
    rw [← date] at years ⊢
    obtain ⟨index, converted⟩ := timeinfoMinus_spec valid years.1 years.2
    rw [secondOfDay] at converted
    refine moves_iff fits ⟨fun inside => index.mp inside.2, fun carried => ?_⟩ ?_
    · exact ⟨(converted carried).1, index.mpr carried⟩
    · rw [← date]
      exact fun carried => (converted carried).2

/-- A platform with an exact `gmtime_r` and with `timegmCustom`. -/
def utcPlatform : Platform where
  floatArithmetic _ left _ := left
  doubleArithmetic _ left _ := left
  convert
    | _, .int, _ => 0#32
    | _, .long, _ => 0#64
    | _, .float, _ => 0#32
    | _, .double, _ => 0#64
  gmtimeR time := Tm.ofSeconds time.toInt
  timegm tm :=
    match timegmCustom tm with
    | .ok time => BitVec.ofInt 64 time
    | .error _ => 0
  malloc _ := []

theorem dateOfTicks_eq {ticks : Int} {date : Date} (number : ticks / 86400000000 = date.dayNumber) :
    dateOfTicks ticks = date := by
  rw [dateOfTicks, number, Date.ofDayNumber_dayNumber]

/-- A month after January 31, 1970, one microsecond past midnight. -/
theorem operators_move_iff_january31 :
    operatorPlus utcPlatform 2592000000001 1 = .ok (58 * 86400000000 + 1) := by
  have date : dateOfTicks 2592000000001 = Date.lastOf 1970 0 (by decide) := dateOfTicks_eq rfl
  have moved : movedTicks 2592000000001 1 = 58 * 86400000000 + 1 := by
    rw [movedTicks, date]
    rfl
  have month : monthOfSeconds 2592000000001 = 0 := by
    have second : dateOfSeconds 2592000 = Date.lastOf 1970 0 (by decide) :=
      Date.dayNumber_injective (Date.dayNumber_ofDayNumber _)
    rw [monthOfSeconds, show (2592000000001 : Int).tdiv 1000000 = 2592000 from rfl, second]
    rfl
  have gmtime : GmtimeExact utcPlatform.gmtimeR := gmtimeExact_ofSeconds
  have moves := ((operators_move_iff gmtime 2592000000001 1).1
    (by
      show InSigned 64 (movedTicks 2592000000001 1)
      rw [moved]
      decide)).mpr
    ⟨by
      show 0 ≤ monthOfSeconds 2592000000001 + 1
      rw [month]
      decide,
    by
      show SecondsFit 2592000000001 1
      rw [SecondsFit, moved]
      decide,
    .inl (by decide)⟩
  exact moves.instant.trans (congrArg Except.ok moved)

/-- A negative month after January 1, 1970 has the month index -1, and so has no result. -/
theorem not_moves_negative_month :
    movedTicks 0 (-1) = -31 * 86400000000 ∧ (timeinfoPlus utcPlatform 0 (-1)).tmMon.toInt = -1 ∧
      operatorPlus utcPlatform 0 (-1) = .error .undefinedBehaviour ∧
      ¬ Moves (timeinfoPlus utcPlatform 0 (-1)) (operatorPlus utcPlatform 0 (-1)) 0 (-1) := by
  have index : (timeinfoPlus utcPlatform 0 (-1)).tmMon.toInt = -1 := by decide
  refine ⟨by decide, index, by rfl, fun moves => ?_⟩
  have nonneg := moves.month_index.1
  rw [index] at nonneg
  exact absurd nonneg (by decide)

end Quickstep.Types
