import Quickstep.Types.CalendarArithmetic
import Quickstep.Types.UnaryOperations

/-!
# The fields of a datetime

EXTRACT takes the fields of the whole second that truncating division leaves of the ticks. For a datetime
before 1970 with a fraction this is not the second that contains the instant, but the one after it.
-/

namespace Quickstep.Types
open Quickstep.Lib

/-! ## The fields of a second -/

/-- A field of the second that begins a number of seconds after the epoch. -/
def DateExtractUnit.fieldOf (seconds : Int) : DateExtractUnit → Int
  | year => (dateOfSeconds seconds).year
  | month => (dateOfSeconds seconds).month + 1
  | day => (dateOfSeconds seconds).day
  | hour => seconds % 86400 / 3600
  | minute => seconds % 3600 / 60
  | second => seconds % 60

/-- The lexicographic order of fields. -/
def FieldsBefore (fields later : DateExtractUnit → Int) : Prop :=
  fields .year < later .year ∨ fields .year = later .year ∧
    (fields .month < later .month ∨ fields .month = later .month ∧
      (fields .day < later .day ∨ fields .day = later .day ∧
        (fields .hour < later .hour ∨ fields .hour = later .hour ∧
          (fields .minute < later .minute ∨ fields .minute = later .minute ∧
            fields .second < later .second))))

section Seconds

variable {seconds later : Int}

theorem dayNumber_dateOfSeconds (seconds : Int) : (dateOfSeconds seconds).dayNumber = seconds / 86400 :=
  Date.dayNumber_ofDayNumber _

/-- **Earlier fields are those of an earlier second.** -/
theorem lt_of_fieldsBefore
    (order : FieldsBefore (DateExtractUnit.fieldOf seconds) (DateExtractUnit.fieldOf later)) :
    seconds < later := by
  have number := dayNumber_dateOfSeconds seconds
  have laterNumber := dayNumber_dateOfSeconds later
  simp only [FieldsBefore, DateExtractUnit.fieldOf] at order
  by_cases dates : (dateOfSeconds seconds).Before (dateOfSeconds later)
  · have := Date.dayNumber_lt dates
    omega
  · have sameDate : dateOfSeconds seconds = dateOfSeconds later := by
      unfold Date.Before at dates
      refine Date.ext ?_ ?_ ?_
      · omega
      · omega
      · omega
    rw [sameDate] at number
    simp only [sameDate] at order
    omega

/-- The fields determine the second. -/
theorem fieldOf_injective (same : DateExtractUnit.fieldOf seconds = DateExtractUnit.fieldOf later) :
    seconds = later := by
  have field (unit : DateExtractUnit) := congrFun same unit
  have month := field .month
  have hour := field .hour
  have minute := field .minute
  have second := field .second
  have date : dateOfSeconds seconds = dateOfSeconds later := by
    simp only [DateExtractUnit.fieldOf] at month
    exact Date.ext (field .year) (by omega) (field .day)
  have number := dayNumber_dateOfSeconds seconds
  have laterNumber := dayNumber_dateOfSeconds later
  rw [date] at number
  simp only [DateExtractUnit.fieldOf] at hour minute second
  omega

end Seconds

/-! ## The fields that are extracted -/

/-- The fields of a datetime, as the numbers that EXTRACT returns. -/
def extractedFields (platform : Platform) (ticks : BitVec 64) (unit : DateExtractUnit) : Int :=
  (DateExtractOperation.field platform unit ticks).toInt

section Extracted

variable {platform : Platform} {ticks other : BitVec 64}

/-- A field of the broken-down time keeps its value. -/
theorem toInt_signExtend (field : BitVec 32) : (field.signExtend 64).toInt = field.toInt :=
  BitVec.toInt_signExtend_of_le (by decide)

/-- **EXTRACT takes the fields of the second that truncating division gives.** -/
theorem extractedFields_eq (gmtime : GmtimeExact platform.gmtimeR) (ticks : BitVec 64) :
    extractedFields platform ticks = DateExtractUnit.fieldOf (ticks.toInt.tdiv 1000000) := by
  have range : -9223372036854775808 ≤ ticks.toInt ∧ ticks.toInt < 9223372036854775808 :=
    ⟨BitVec.le_toInt ticks, BitVec.toInt_lt⟩
  have isSeconds := toInt_epochTime ticks
  obtain ⟨whole, positive, negative⟩ := @tdiv_tmod_bounds ticks.toInt _ _ rfl rfl
  generalize ticks.toInt.tdiv 1000000 = seconds at *
  generalize ticks.toInt.tmod 1000000 = subseconds at whole positive negative
  have lower : -9223372036855 ≤ seconds := by omega
  have upper : seconds ≤ 9223372036855 := by omega
  have years := year_of_datetime_bounds lower upper
  obtain ⟨valid, validSeconds⟩ := gmtime (DatetimeLit.epochTime ticks) (by
    rw [isSeconds]
    exact year_of_datetime lower upper)
  obtain ⟨sameDate, sameTime⟩ := valid.date_eq
  rw [validSeconds, isSeconds] at sameDate sameTime
  have year : (platform.gmtimeR (DatetimeLit.epochTime ticks)).tmYear.toInt + 1900 =
      (dateOfSeconds seconds).year := congrArg Date.year sameDate
  have month : (platform.gmtimeR (DatetimeLit.epochTime ticks)).tmMon.toInt.toNat =
      (dateOfSeconds seconds).month := congrArg Date.month sameDate
  have day : (platform.gmtimeR (DatetimeLit.epochTime ticks)).tmMday.toInt =
      (dateOfSeconds seconds).day := congrArg Date.day sameDate
  obtain ⟨monNonneg, monLt, _, _, _, _, _, _, _, _⟩ := valid
  unfold Tm.secondOfDay at sameTime
  have yearAdd := @toInt_add_32 (platform.gmtimeR (DatetimeLit.epochTime ticks)).tmYear 1900 1900
    rfl (by omega)
  have monthAdd := @toInt_add_32 (platform.gmtimeR (DatetimeLit.epochTime ticks)).tmMon 1 1
    rfl (by omega)
  funext unit
  unfold extractedFields DateExtractOperation.field
  cases unit with
  | year =>
    simp only [DatetimeLit.yearField, toInt_signExtend, yearAdd, DateExtractUnit.fieldOf]
    omega
  | month =>
    simp only [DatetimeLit.monthField, toInt_signExtend, monthAdd, DateExtractUnit.fieldOf]
    omega
  | day => simp only [DatetimeLit.dayField, toInt_signExtend, day, DateExtractUnit.fieldOf]
  | hour =>
    simp only [DatetimeLit.hourField, toInt_signExtend, DateExtractUnit.fieldOf]
    omega
  | minute =>
    simp only [DatetimeLit.minuteField, toInt_signExtend, DateExtractUnit.fieldOf]
    omega
  | second =>
    simp only [DatetimeLit.secondField, toInt_signExtend, DateExtractUnit.fieldOf]
    omega

/-- Both forms of EXTRACT give the fields of the second that contains the instant: the largest whole
second not after it. -/
def ExtractsContaining (platform : Platform) (ticks : BitVec 64) : Prop :=
  ∀ (unit : DateExtractUnit) (nullable : Bool), ∃ value : BitVec 64,
    value.toInt = unit.fieldOf (ticks.toInt / 1000000) ∧
    DateExtractOperation.applyToChecked platform unit (.datetime ticks) (.datetime nullable) =
      some (.long value) ∧
    ∃ op, DateExtractOperation.makeUncheckedUnaryOperatorForType platform unit (.datetime nullable) =
      some op ∧ op.applyToTypedValue (.datetime ticks) = .long value

theorem applyToChecked_datetime (unit : DateExtractUnit) (nullable : Bool) (ticks : BitVec 64) :
    DateExtractOperation.applyToChecked platform unit (.datetime ticks) (.datetime nullable) =
      some (.long (DateExtractOperation.field platform unit ticks)) := rfl

theorem applyToTypedValue_datetime (unit : DateExtractUnit) (nullable : Bool) (ticks : BitVec 64) :
    ∃ op, DateExtractOperation.makeUncheckedUnaryOperatorForType platform unit (.datetime nullable) =
      some op ∧
      op.applyToTypedValue (.datetime ticks) =
        .long (DateExtractOperation.field platform unit ticks) := by
  refine ⟨_, rfl, ?_⟩
  cases nullable <;> rfl

/-- Truncating division rounds down exactly if the number is not negative or there is no rest. -/
theorem tdiv_eq_ediv_iff (ticks : Int) :
    ticks.tdiv 1000000 = ticks / 1000000 ↔ 0 ≤ ticks ∨ ticks % 1000000 = 0 := by
  obtain ⟨whole, positive, negative⟩ := @tdiv_tmod_bounds ticks _ _ rfl rfl
  generalize ticks.tdiv 1000000 = seconds at *
  omega

/-- **The fields are those of the containing second** exactly if the instant is not before 1970 or has
no fraction. -/
theorem extractsContaining_iff (gmtime : GmtimeExact platform.gmtimeR) (ticks : BitVec 64) :
    ExtractsContaining platform ticks ↔ 0 ≤ ticks.toInt ∨ ticks.toInt % 1000000 = 0 := by
  rw [← tdiv_eq_ediv_iff]
  have extracted := extractedFields_eq gmtime ticks
  constructor
  · intro contains
    refine fieldOf_injective (funext fun unit => ?_)
    obtain ⟨value, isField, checked, -⟩ := contains unit false
    rw [applyToChecked_datetime] at checked
    cases checked
    rw [← extracted, ← isField]
    rfl
  · intro same unit nullable
    refine ⟨_, ?_, applyToChecked_datetime unit nullable ticks,
      applyToTypedValue_datetime unit nullable ticks⟩
    rw [← same, ← extracted]
    rfl

/-- **The fields never go back.** -/
theorem extractedFields_monotone (gmtime : GmtimeExact platform.gmtimeR)
    (order : ticks.toInt ≤ other.toInt) :
    ¬ FieldsBefore (extractedFields platform other) (extractedFields platform ticks) := by
  rw [extractedFields_eq gmtime, extractedFields_eq gmtime]
  intro before
  have earlier := lt_of_fieldsBefore before
  exact absurd (Int.tdiv_le_tdiv (by decide) order) (Int.not_le.mpr earlier)

/-- The fields and what `subseconds` returns determine the ticks. -/
theorem ticks_eq_of_subseconds (gmtime : GmtimeExact platform.gmtimeR)
    (fields : extractedFields platform ticks = extractedFields platform other)
    (subseconds : DatetimeLit.subseconds ticks = DatetimeLit.subseconds other) : ticks = other := by
  rw [extractedFields_eq gmtime, extractedFields_eq gmtime] at fields
  have second := fieldOf_injective fields
  have rest := congrArg BitVec.toInt subseconds
  rw [toInt_subseconds, toInt_subseconds] at rest
  apply BitVec.eq_of_toInt_eq
  rw [← Int.mul_tdiv_add_tmod ticks.toInt 1000000, ← Int.mul_tdiv_add_tmod other.toInt 1000000, second,
    rest]

/-- What EXTRACT promises for two instants. -/
structure ExtractsCorrectly (platform : Platform) (ticks other : BitVec 64) : Prop where
  contains : ExtractsContaining platform ticks
  contains_other : ExtractsContaining platform other
  monotone : ticks.toInt ≤ other.toInt →
    ¬ FieldsBefore (extractedFields platform other) (extractedFields platform ticks)
  determined : extractedFields platform ticks = extractedFields platform other →
    ticks.toInt % 1000000 = other.toInt % 1000000 → ticks = other

/-- **EXTRACT is correct** exactly for instants that are not before 1970, or have no fraction. For all
others, too, the fields are monotone, and together with the signed subseconds they determine the
ticks. -/
theorem extractsCorrectly_iff (gmtime : GmtimeExact platform.gmtimeR) (ticks other : BitVec 64) :
    (ExtractsCorrectly platform ticks other ↔
      (0 ≤ ticks.toInt ∨ ticks.toInt % 1000000 = 0) ∧
        (0 ≤ other.toInt ∨ other.toInt % 1000000 = 0)) ∧
    (ticks.toInt ≤ other.toInt →
      ¬ FieldsBefore (extractedFields platform other) (extractedFields platform ticks)) ∧
    (extractedFields platform ticks = extractedFields platform other →
      DatetimeLit.subseconds ticks = DatetimeLit.subseconds other → ticks = other) := by
  refine ⟨⟨fun correct => ?_, ?_⟩, extractedFields_monotone gmtime, ticks_eq_of_subseconds gmtime⟩
  · exact ⟨(extractsContaining_iff gmtime ticks).mp correct.contains,
      (extractsContaining_iff gmtime other).mp correct.contains_other⟩
  · rintro ⟨first, second⟩
    refine ⟨(extractsContaining_iff gmtime ticks).mpr first,
      (extractsContaining_iff gmtime other).mpr second, extractedFields_monotone gmtime,
      fun fields fraction => ?_⟩
    rw [extractedFields_eq gmtime, extractedFields_eq gmtime] at fields
    have seconds := fieldOf_injective fields
    rw [(tdiv_eq_ediv_iff _).mpr first, (tdiv_eq_ediv_iff _).mpr second] at seconds
    apply BitVec.eq_of_toInt_eq
    omega

/-- A second before the epoch, and the epoch. -/
theorem extractsCorrectly_iff_epoch : ExtractsCorrectly utcPlatform (-1000000#64) 0#64 :=
  (extractsCorrectly_iff gmtimeExact_ofSeconds (-1000000#64) 0#64).1.mpr
    ⟨.inr (by decide), .inl (by decide)⟩

/-- A tick before the epoch has the fields of the epoch. -/
theorem not_extractsContaining_beforeEpoch :
    extractedFields utcPlatform (-1#64) = extractedFields utcPlatform 0#64 ∧
      ¬ ExtractsContaining utcPlatform (-1#64) := by
  have gmtime : GmtimeExact utcPlatform.gmtimeR := gmtimeExact_ofSeconds
  refine ⟨?_, ?_⟩
  · rw [extractedFields_eq gmtime, extractedFields_eq gmtime]
    rfl
  · rw [extractsContaining_iff gmtime]
    decide

end Extracted

end Quickstep.Types
