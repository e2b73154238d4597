import Quickstep.Types.CalendarArithmetic
import Quickstep.Types.DatetimeText

/-!
# Parsing datetimes

What the fields of a string denote, and when the parser returns it. The parser checks the date and
the time completely; what it leaves to chance is arithmetic on years that are far away.
-/

namespace Quickstep.Types
open Quickstep.Lib

namespace DatetimeType

/-! ## What the fields denote -/

/-- A time of the day, behind one of three separators. -/
structure TimeFields.Valid (time : TimeFields) : Prop where
  separator : time.separator = 'T' ∨ time.separator = 't' ∨ time.separator = ' '
  hour_nonneg : 0 ≤ time.hour
  hour_lt : time.hour < 24
  minute_nonneg : 0 ≤ time.minute
  minute_lt : time.minute < 60
  second_nonneg : 0 ≤ time.second
  second_lt : time.second < 60

namespace DatetimeFields

/-- The first three fields are a date of the calendar. -/
structure ValidDate (fields : DatetimeFields) : Prop where
  one_le_month : 1 ≤ fields.month
  month_le : fields.month ≤ 12
  one_le_day : 1 ≤ fields.day
  day_le : fields.day ≤ daysInMonth fields.year (fields.month - 1).toNat

def ValidDate.date {fields : DatetimeFields} (valid : fields.ValidDate) : Date where
  year := fields.year
  month := (fields.month - 1).toNat
  day := fields.day
  month_lt := by
    have := valid.month_le
    omega
  one_le_day := valid.one_le_day
  day_le := valid.day_le

/-- The time, if there is one, is a time of the day. -/
def ValidTime (fields : DatetimeFields) : Prop := ∀ time ∈ fields.time, time.Valid

variable (fields : DatetimeFields)

/-- The seconds since midnight. -/
def secondOfDay : Int :=
  match fields.time with
  | some time => 3600 * time.hour + 60 * time.minute + time.second
  | none => 0

/-- The microseconds that the digits of the subseconds are. -/
def microseconds : Int :=
  match fields.time with
  | some ⟨_, _, _, _, some digits⟩ => Nat.ofDigitChars 10 digits 0 * 10 ^ (6 - digits.length)
  | _ => 0

/-- The seconds since the beginning of 1970, by the calendar. -/
def ValidDate.epochSeconds {fields : DatetimeFields} (valid : fields.ValidDate) : Int :=
  86400 * valid.date.dayNumber + fields.secondOfDay

end DatetimeFields

/-! ## The checks -/

section Checks

variable {fields : DatetimeFields}

theorem daysInFebruary_eq {year : Int} (fits : InSigned 32 year) :
    daysInFebruary year = daysInMonth year 1 := by
  have bits := and_mask_eq_zero_iff (BitVec.ofInt 32 year)
  rw [toInt_ofInt_32 fits] at bits
  have hundredth : year.tmod 25 = 0 ↔ year % 25 = 0 := by
    rw [← Int.dvd_iff_tmod_eq_zero, Int.dvd_iff_emod_eq_zero]
  have leap : BitVec.ofInt 32 year &&& 3 = 0 ∧
      (year.tmod 25 ≠ 0 ∨ BitVec.ofInt 32 year &&& 15 = 0) ↔ IsLeap year := by
    rw [bits.1, bits.2, ne_eq, hundredth]
    unfold IsLeap
    omega
  unfold daysInFebruary
  simp only [leap]
  rfl

/-- The last day of a month, as the parser tells the months apart. -/
theorem daysInMonth_eq (year month : Int) (lower : 1 ≤ month) (upper : month ≤ 12) :
    daysInMonth year (month - 1).toNat =
      if month = 2 then daysInMonth year 1
      else if month = 4 || month = 6 || month = 9 || month = 11 then 30 else 31 := by
  interval_cases month <;> rfl

/-- **The date is checked completely.** -/
theorem checkDate_iff (fits : InSigned 32 fields.year) :
    fields.checkDate = true ↔ fields.ValidDate := by
  unfold DatetimeFields.checkDate
  rw [daysInFebruary_eq fits]
  by_cases inYear : 1 ≤ fields.month ∧ fields.month ≤ 12
  · have lastDay : (if fields.month = 2 then decide (fields.day ≤ daysInMonth fields.year 1)
        else if fields.month = 4 || fields.month = 6 || fields.month = 9 || fields.month = 11 then
          decide (fields.day ≤ 30)
        else decide (fields.day ≤ 31)) =
        decide (fields.day ≤ daysInMonth fields.year (fields.month - 1).toNat) := by
      rw [daysInMonth_eq fields.year fields.month inYear.1 inYear.2]
      split
      · rfl
      · split <;> rfl
    rw [if_neg (by simp; omega), lastDay]
    refine ⟨fun checked => ?_, fun valid => ?_⟩
    · split at checked
      · cases checked
      · exact ⟨inYear.1, inYear.2, by omega, of_decide_eq_true checked⟩
    · rw [if_neg (by have := valid.one_le_day; omega)]
      exact decide_eq_true valid.day_le
  · rw [if_pos (by simp; omega)]
    exact ⟨nofun, fun valid => absurd ⟨valid.one_le_month, valid.month_le⟩ inYear⟩

theorem check_iff {time : TimeFields} : time.check = true ↔ time.Valid := by
  unfold TimeFields.check
  constructor
  · intro checked
    split at checked
    · cases checked
    · rename_i separator
      split at checked
      · cases checked
      · rename_i hour
        split at checked
        · cases checked
        · rename_i minute
          simp at separator hour minute checked
          exact ⟨by tauto, by omega, by omega, by omega, by omega, by omega, by omega⟩
  · intro valid
    obtain ⟨separator, _, _, _, _, _, _⟩ := valid
    rw [if_neg (by rcases separator with same | same | same <;> simp [same]), if_neg (by simp; omega),
      if_neg (by simp; omega)]
    simp
    omega

theorem checkTime_iff : fields.checkTime = true ↔ fields.ValidTime := by
  unfold DatetimeFields.checkTime DatetimeFields.ValidTime
  rw [Option.all_eq_true]
  exact ⟨fun checked time isTime => check_iff.mp (checked time isTime),
    fun valid time isTime => check_iff.mpr (valid time isTime)⟩

end Checks

/-! ## The value of the fields -/

section Value

variable {fields : DatetimeFields}

theorem secondOfDay_bounds (time : fields.ValidTime) :
    0 ≤ fields.secondOfDay ∧ fields.secondOfDay < 86400 := by
  unfold DatetimeFields.secondOfDay
  split
  · rename_i isTime
    obtain ⟨_, _, _, _, _, _, _⟩ := time _ isTime
    omega
  · omega

/-- A broken-down time from the numbers of a valid date and of a time of the day. -/
theorem tm_valid (date : fields.ValidDate) (fits : InSigned 32 (fields.year - 1900))
    {hour minute second : Int} (hourRange : 0 ≤ hour ∧ hour < 24) (minuteRange : 0 ≤ minute ∧ minute < 60)
    (secondRange : 0 ≤ second ∧ second < 60)
    (isTime : fields.secondOfDay = 3600 * hour + 60 * minute + second) {tm : Tm}
    (isTm : tm = ⟨BitVec.ofInt 32 (fields.year - 1900), BitVec.ofInt 32 (fields.month - 1),
      BitVec.ofInt 32 fields.day, BitVec.ofInt 32 hour, BitVec.ofInt 32 minute,
      BitVec.ofInt 32 second⟩) :
    ∃ valid : tm.Valid, valid.seconds = date.epochSeconds ∧ valid.date = date.date ∧
      tm.tmSec.toInt = second := by
  have length := (@daysInMonth_bounds fields.year (fields.month - 1).toNat).2
  have oneLeMonth := date.one_le_month
  have monthLe := date.month_le
  have oneLeDay := date.one_le_day
  have dayLe := date.day_le
  have small (value : Int) (lower : 0 ≤ value) (upper : value < 60) :
      (BitVec.ofInt 32 value).toInt = value := toInt_ofInt_32 (by rw [inSigned_32]; omega)
  have isYear : tm.tmYear.toInt = fields.year - 1900 := by
    rw [isTm]
    exact toInt_ofInt_32 fits
  have isMonth : tm.tmMon.toInt = fields.month - 1 := by
    rw [isTm]
    exact small _ (by omega) (by omega)
  have isDay : tm.tmMday.toInt = fields.day := by
    rw [isTm]
    exact small _ (by omega) (by omega)
  have isHour : tm.tmHour.toInt = hour := by
    rw [isTm]
    exact small _ (by omega) (by omega)
  have isMinute : tm.tmMin.toInt = minute := by
    rw [isTm]
    exact small _ (by omega) (by omega)
  have isSecond : tm.tmSec.toInt = second := by
    rw [isTm]
    exact small _ (by omega) (by omega)
  have valid : tm.Valid := by
    constructor
    case mday_le => rwa [isYear, isMonth, isDay, Int.sub_add_cancel]
    all_goals omega
  have sameDate : valid.date = date.date := by
    refine Date.ext ?_ ?_ isDay
    · exact (congrArg (· + 1900) isYear).trans (Int.sub_add_cancel _ _)
    · exact congrArg Int.toNat isMonth
  refine ⟨valid, ?_, sameDate, isSecond⟩
  rw [Tm.Valid.seconds, sameDate, DatetimeFields.ValidDate.epochSeconds, isTime, Tm.secondOfDay, isHour,
    isMinute, isSecond]

/-- The broken-down time of valid fields is valid, and its seconds are theirs. -/
theorem timeParts_eq (date : fields.ValidDate) (time : fields.ValidTime)
    (fits : InSigned 32 (fields.year - 1900)) :
    ∃ tm, ∃ valid : tm.Valid, fields.timeParts = .ok tm ∧ valid.seconds = date.epochSeconds ∧
      tm.tmSec.toInt = fields.secondOfDay % 60 := by
  have oneLeMonth := date.one_le_month
  have monthLe := date.month_le
  have monthFits := @int32_ok (fields.month - 1) (by omega) (by omega)
  have yearFits : int32 (fields.year - 1900) = .ok (fields.year - 1900) := if_pos fits
  unfold DatetimeFields.timeParts
  rw [yearFits, Exec.ok_bind, monthFits, Exec.ok_bind]
  cases isTime : fields.time with
  | none =>
    have secondOfDay : fields.secondOfDay = 0 := by
      unfold DatetimeFields.secondOfDay
      rw [isTime]
    obtain ⟨valid, seconds, -, second⟩ := tm_valid date fits ⟨Int.le_refl 0, by omega⟩
      ⟨Int.le_refl 0, by omega⟩ ⟨Int.le_refl 0, by omega⟩ secondOfDay rfl
    exact ⟨_, valid, rfl, seconds, by rw [second, secondOfDay]; rfl⟩
  | some timeValue =>
    obtain ⟨separator, hourNonneg, hourLt, minuteNonneg, minuteLt, secondNonneg, secondLt⟩ :=
      time timeValue isTime
    have secondOfDay : fields.secondOfDay =
        3600 * timeValue.hour + 60 * timeValue.minute + timeValue.second := by
      unfold DatetimeFields.secondOfDay
      rw [isTime]
    obtain ⟨valid, seconds, -, second⟩ := tm_valid date fits ⟨hourNonneg, hourLt⟩
      ⟨minuteNonneg, minuteLt⟩ ⟨secondNonneg, secondLt⟩ secondOfDay rfl
    exact ⟨_, valid, rfl, seconds, by rw [second, secondOfDay]; omega⟩

/-- The second before the epoch passes the test that its seconds call for. -/
theorem lastSecondOf1969_of_epochSeconds (date : fields.ValidDate) (time : fields.ValidTime)
    (before : date.epochSeconds = -1) {tm : Tm} (second : tm.tmSec.toInt = fields.secondOfDay % 60) :
    fields.lastSecondOf1969 tm = true := by
  have bounds := secondOfDay_bounds time
  have day : date.date.dayNumber = (Date.lastOf 1969 11 (by omega)).dayNumber := by
    have last : (Date.lastOf 1969 11 (by omega)).dayNumber = -1 := rfl
    unfold DatetimeFields.ValidDate.epochSeconds at before
    omega
  have same := Date.dayNumber_injective day
  have year : fields.year = 1969 := congrArg Date.year same
  have month : (fields.month - 1).toNat = 11 := congrArg Date.month same
  have dayOfMonth : fields.day = 31 := congrArg Date.day same
  have oneLeMonth := date.one_le_month
  have monthIs : fields.month = 12 := by omega
  have secondIs : tm.tmSec.toInt = 59 := by
    unfold DatetimeFields.ValidDate.epochSeconds at before
    omega
  unfold DatetimeFields.lastSecondOf1969
  rw [year, monthIs, dayOfMonth, secondIs]
  rfl

/-- The digits of the subseconds are microseconds. -/
theorem subseconds_eq {text : List Char} (isText : fields.Text text) :
    fields.subseconds = .ok (some fields.microseconds) ∧ 0 ≤ fields.microseconds ∧
      fields.microseconds < 1000000 := by
  obtain ⟨-, -, -, -, time, -, -, -, -, isTime⟩ := isText
  unfold DatetimeFields.subseconds DatetimeFields.microseconds
  rcases timeIs : fields.time with _ | ⟨separator, hour, minute, second, _ | digits⟩
  · exact ⟨rfl, Int.le_refl 0, (by decide : (0 : Int) < 1000000)⟩
  · exact ⟨rfl, Int.le_refl 0, (by decide : (0 : Int) < 1000000)⟩
  · rw [timeIs] at isTime
    obtain ⟨-, -, -, -, -, -, -, -, -, nonempty, short, every⟩ := isTime
    have someDigits : digits.length ≠ 0 := fun none => nonempty (List.length_eq_zero_iff.mp none)
    have amount := ofDigitChars_lt every 0
    rw [Nat.zero_add, Nat.one_mul] at amount
    have whole : 10 ^ digits.length * 10 ^ (6 - digits.length) = 1000000 := by
      rw [← Nat.pow_add, Nat.add_sub_cancel' short]
    have bounded : Nat.ofDigitChars 10 digits 0 * 10 ^ (6 - digits.length) < 1000000 := by
      rw [← whole]
      exact Nat.mul_lt_mul_of_pos_right amount (Nat.pow_pos (by decide))
    have atMost : 10 ^ digits.length ≤ 10 ^ 6 := Nat.pow_le_pow_right (by decide) short
    have read := atoi_digits nonempty every (by rw [inSigned_32]; omega)
    have scaled := @scaleByTen_eq 64 (6 - digits.length) (Nat.ofDigitChars 10 digits 0)
      (by rw [inSigned_64]; omega)
    have cast : ((Nat.ofDigitChars 10 digits 0 * 10 ^ (6 - digits.length) : Nat) : Int) =
        Nat.ofDigitChars 10 digits 0 * 10 ^ (6 - digits.length) := by
      push_cast
      rfl
    refine ⟨?_, ?_⟩
    · simp only [if_neg someDigits]
      rw [read, Exec.ok_bind, if_neg (by omega), scaled, cast]
      rfl
    · simp only
      rw [← cast]
      omega

/-- **The value of valid fields**: the calendar's seconds, then checked arithmetic. -/
theorem value_eq {text : List Char} (isText : fields.Text text) (date : fields.ValidDate)
    (time : fields.ValidTime) (yearFits : InSigned 32 fields.year)
    (fits : InSigned 32 (fields.year - 1900)) :
    fields.value =
      some <$> fromEpochTimePlusSubseconds date.epochSeconds fields.microseconds := by
  obtain ⟨tm, valid, parts, seconds, second⟩ := timeParts_eq date time fits
  unfold DatetimeFields.value
  rw [(checkDate_iff yearFits).mpr date, parts, Exec.ok_bind, checkTime_iff.mpr time,
    timegmCustom_eq valid, seconds]
  show fields.literal tm date.epochSeconds = _
  have notRejected : (decide (date.epochSeconds = -1) && !fields.lastSecondOf1969 tm) = false := by
    by_cases before : date.epochSeconds = -1
    · rw [lastSecondOf1969_of_epochSeconds date time before second]
      simp
    · simp [before]
  unfold DatetimeFields.literal
  rw [notRejected, (subseconds_eq isText).1]
  rfl

end Value

/-! ## Soundness -/

/-- **A string denotes a datetime**: its fields are a date and a time of that day, and the ticks are
those of the calendar. -/
def Denotes (text : List Char) (ticks : Int) : Prop :=
  ∃ fields : DatetimeFields, ∃ date : fields.ValidDate, fields.Text text ∧ fields.ValidTime ∧
    ticks = 1000000 * date.epochSeconds + fields.microseconds

/-- The parser returns, and a datetime that it returns is denoted by the string. -/
def ParsesSoundly (text : List Char) : Prop :=
  ∃ result, parseValueFromString text = .ok result ∧
    ∀ value, result = some value → ∃ ticks : BitVec 64, value = .datetime ticks ∧
      Denotes text ticks.toInt

/-- The arithmetic on a string's fields stays within the types: the year counted from 1900 if the
date is valid, and the ticks if the time is valid, too. -/
def ArithmeticFits (text : List Char) : Prop :=
  ∀ (fields : DatetimeFields) (date : fields.ValidDate), fields.Text text →
    InSigned 32 (fields.year - 1900) ∧
    (fields.ValidTime → InSigned 64 (1000000 * date.epochSeconds) ∧
      InSigned 64 (1000000 * date.epochSeconds + fields.microseconds))

section Soundness

variable {fields : DatetimeFields} {text : List Char}

theorem year_of_text (yearFits : YearFits text) (isText : fields.Text text) :
    InSigned 32 fields.year := by
  obtain ⟨noNul, year, month, day, time, whole, isYear, -⟩ := isText
  exact yearFits year _ _ ((cString_of_noNul noNul).trans whole) (isField_append isYear)

theorem timeParts_ok_iff (date : fields.ValidDate) :
    (∃ tm, fields.timeParts = .ok tm) ↔ InSigned 32 (fields.year - 1900) := by
  have oneLeMonth := date.one_le_month
  have monthLe := date.month_le
  have monthFits := @int32_ok (fields.month - 1) (by omega) (by omega)
  unfold DatetimeFields.timeParts
  constructor
  · rintro ⟨tm, run⟩
    obtain ⟨year, counted, -⟩ := Exec.bind_ok run
    exact (checked_eq_ok.mp counted).2
  · intro fits
    have yearFits : int32 (fields.year - 1900) = .ok (fields.year - 1900) := if_pos fits
    rw [yearFits, Exec.ok_bind, monthFits]
    exact ⟨_, rfl⟩

theorem fromEpochTimePlusSubseconds_eq_ok {time subseconds ticks : Int} :
    fromEpochTimePlusSubseconds time subseconds = .ok ticks ↔
      ticks = 1000000 * time + subseconds ∧ InSigned 64 (1000000 * time) ∧
        InSigned 64 (1000000 * time + subseconds) := by
  have unit : DatetimeLit.ticksPerSecond.toInt = 1000000 := rfl
  unfold fromEpochTimePlusSubseconds
  rw [unit, Int.mul_comm]
  constructor
  · intro run
    obtain ⟨whole, scaled, sum⟩ := Exec.bind_ok run
    obtain ⟨rfl, wholeFits⟩ := checked_eq_ok.mp scaled
    obtain ⟨rfl, sumFits⟩ := checked_eq_ok.mp sum
    exact ⟨rfl, wholeFits, sumFits⟩
  · rintro ⟨rfl, wholeFits, sumFits⟩
    have scaled : int64 (1000000 * time) = .ok (1000000 * time) := if_pos wholeFits
    rw [scaled, Exec.ok_bind]
    exact if_pos sumFits

/-- The parser on the fields of a string. -/
theorem parseValueFromString_of_text (isText : fields.Text text) (yearFits : InSigned 32 fields.year) :
    parseValueFromString text = (do
      let literal ← fields.value
      pure (literal.map fun ticks =>
        TypedValue.ofLiteral .datetimeLit (BitVec.ofInt 64 ticks))) := by
  unfold parseValueFromString
  rw [scanFields_of_text isText yearFits, Exec.ok_bind]

/-- **A valid datetime is parsed** if its ticks fit. -/
theorem parseValueFromString_eq (isText : fields.Text text) (date : fields.ValidDate)
    (time : fields.ValidTime) (yearFits : InSigned 32 fields.year)
    (fits : InSigned 32 (fields.year - 1900)) (wholeFits : InSigned 64 (1000000 * date.epochSeconds))
    (ticksFit : InSigned 64 (1000000 * date.epochSeconds + fields.microseconds)) :
    parseValueFromString text = .ok (some (.datetime
      (BitVec.ofInt 64 (1000000 * date.epochSeconds + fields.microseconds)))) := by
  rw [parseValueFromString_of_text isText yearFits, value_eq isText date time yearFits fits,
    fromEpochTimePlusSubseconds_eq_ok.mpr ⟨rfl, wholeFits, ticksFit⟩]
  rfl

/-- **The parser is sound** exactly on the strings whose year is an `int` and whose arithmetic stays
within the types. -/
theorem parsesSoundly_iff (text : List Char) :
    ParsesSoundly text ↔ YearFits text ∧ ArithmeticFits text := by
  constructor
  · rintro ⟨result, run, -⟩
    have parsed := run
    obtain ⟨scanned, isScanned, -⟩ := Exec.bind_ok run
    have yearFits := scanFields_defined_iff.mp ⟨scanned, isScanned⟩
    refine ⟨yearFits, fun fields date isText => ?_⟩
    have year := year_of_text yearFits isText
    rw [parseValueFromString_of_text isText year] at parsed
    obtain ⟨literal, isValue, -⟩ := Exec.bind_ok parsed
    have fits : InSigned 32 (fields.year - 1900) := by
      have value := isValue
      unfold DatetimeFields.value at value
      rw [(checkDate_iff year).mpr date] at value
      obtain ⟨tm, isTm, -⟩ := Exec.bind_ok value
      exact (timeParts_ok_iff date).mp ⟨tm, isTm⟩
    refine ⟨fits, fun time => ?_⟩
    rw [value_eq isText date time year fits] at isValue
    cases ticks : fromEpochTimePlusSubseconds date.epochSeconds fields.microseconds with
    | error fault =>
      rw [ticks] at isValue
      cases isValue
    | ok ticks' => exact (fromEpochTimePlusSubseconds_eq_ok.mp ticks).2
  · rintro ⟨yearFits, arithmetic⟩
    obtain ⟨scanned, isScanned⟩ := scanFields_defined_iff.mpr yearFits
    cases scanned with
    | none =>
      refine ⟨none, ?_, nofun⟩
      unfold parseValueFromString
      rw [isScanned]
      rfl
    | some fields =>
      have isText := text_of_scanFields isScanned
      have year := year_of_text yearFits isText
      have rejected (isNone : fields.value = .ok none) : ParsesSoundly text := by
        refine ⟨none, ?_, nofun⟩
        rw [parseValueFromString_of_text isText year, isNone]
        rfl
      by_cases checked : fields.checkDate = true
      · have date := (checkDate_iff year).mp checked
        obtain ⟨fits, ticksFit⟩ := arithmetic fields date isText
        by_cases checkedTime : fields.checkTime = true
        · have time := checkTime_iff.mp checkedTime
          obtain ⟨wholeFits, sumFits⟩ := ticksFit time
          refine ⟨_, parseValueFromString_eq isText date time year fits wholeFits sumFits, ?_⟩
          intro value isValue
          cases isValue
          refine ⟨_, rfl, fields, date, isText, time, ?_⟩
          rw [inSigned_64] at sumFits
          rw [BitVec.toInt_ofInt, Int.bmod_def]
          omega
        · obtain ⟨tm, parts⟩ := (timeParts_ok_iff date).mpr fits
          refine rejected ?_
          unfold DatetimeFields.value
          rw [checked, parts, Exec.ok_bind, Bool.eq_false_iff.mpr checkedTime]
          rfl
      · refine rejected ?_
        unfold DatetimeFields.value
        rw [Bool.eq_false_iff.mpr checked]
        rfl

/-- The first day of the year 300000 passes every check, and its ticks overflow. -/
theorem not_parsesSoundly_year300000 : ¬ ParsesSoundly "300000-01-01".toList := by
  have overflow : parseValueFromString "300000-01-01".toList = .error .undefinedBehaviour := by
    rfl
  rintro ⟨result, run, -⟩
  rw [overflow] at run
  cases run

end Soundness

end DatetimeType

end Quickstep.Types
